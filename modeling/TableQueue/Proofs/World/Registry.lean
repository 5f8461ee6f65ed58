import TableQueue.Proofs.World.Sound

/-!
# The registry of calls

The registry that a crew shares has an entry for every worker that waits for a connection or for a
statement other than a command of its transaction, and no other entries. An entry begins when its
worker turns to the call, and a probe with its second statement counts as one call. Turns are
followed here from one point to the next; runs come later.
-/

namespace TableQueue

variable {α : Type} {duties : Duties α}

/-! ## Entries -/

namespace Health

variable {health : Health} {age : Span} {now : Instant}

def entries (health : Health) (name : String) : List (String × Instant) :=
  health.calls.filter (·.1 == name)

/-- The end of a call removes the entries of its worker and no others. -/
theorem entries_finish (health : Health) (worker name : String) :
    (health.finish worker).entries name = if name = worker then [] else health.entries name := by
  unfold entries finish
  rw [List.filter_filter]
  split
  · next hname =>
    subst hname
    refine List.filter_eq_nil_iff.2 fun call _ ↦ ?_
    simp
  · next hname =>
    refine List.filter_congr fun call _ ↦ ?_
    by_cases hcall : call.1 = name
    · simp [hcall, hname]
    · simp [hcall]

/-- The beginning of a call replaces the entries of its worker and no others. -/
theorem entries_begin (health : Health) (worker name : String) (now : Instant) :
    (health.begin worker now).entries name =
      if name = worker then [(worker, now)] else health.entries name := by
  have hothers := health.entries_finish worker name
  unfold entries at hothers ⊢
  rw [begin, List.filter_append, hothers]
  by_cases hname : name = worker
  · simp [hname]
  · simp [hname, Ne.symm hname]

theorem mem_entries {name : String} {call : String × Instant} :
    call ∈ health.entries name ↔ call ∈ health.calls ∧ call.1 = name := by
  simp [entries]

/-- A worker is hung if it has an entry that is older than the age. -/
theorem mem_hungSince {name : String} : name ∈ health.hungSince age now ↔
    ∃ begun, (name, begun) ∈ health.entries name ∧ age < now.since begun := by
  simp [hungSince, mem_entries]

/-- If no worker has two entries, the hung workers come in strictly ascending order. -/
theorem pairwise_hungSince (h : ∀ name, (health.entries name).length ≤ 1) :
    (health.hungSince age now).Pairwise (· < ·) := by
  have hnodup : (health.calls.map Prod.fst).Nodup := by
    rw [List.nodup_iff_count]
    intro name
    rw [List.count, List.countP_map, List.countP_eq_length_filter]
    exact h name
  have hsorted := @List.pairwise_mergeSort String (fun a b ↦ !decide (b < a))
    (fun a b c hab hbc ↦ by
      simp only [Bool.not_eq_true', decide_eq_false_iff_not, String.not_lt] at hab hbc ⊢
      exact String.le_trans hab hbc)
    (fun a b ↦ by
      simp only [Bool.or_eq_true, Bool.not_eq_true', decide_eq_false_iff_not, String.not_lt]
      exact String.le_total a b)
    ((health.calls.filter fun call ↦ decide (age < now.since call.2)).map (·.1))
  have hdistinct : (health.hungSince age now).Nodup :=
    (List.mergeSort_perm _ _).nodup_iff.2 (hnodup.sublist (List.filter_sublist.map Prod.fst))
  refine (hsorted.and hdistinct).imp fun {a b} hab ↦ ?_
  have hle : a ≤ b := by
    simpa only [Bool.not_eq_true', decide_eq_false_iff_not, String.not_lt] using hab.1
  exact String.not_le.1 fun hba ↦ hab.2 (String.le_antisymm hle hba)

end Health

/-! ## Calls that the registry follows -/

def Call.isCommand : Call α → Bool
  | execute _ (.command _) => true
  | _ => false

def Call.isTracked : Call α → Bool
  | execute _ (.command _) => false
  | connect | execute .. => true
  | pause | deallocate _ | deliver .. | close _ => false

namespace Point

/-- The instant at which the call began that the registry follows. -/
def trackedSince? : Point α → Option Instant
  | connecting begun | polling _ _ (.probing _ _ begun) | polling _ _ (.bounding _ _ begun)
  | polling _ _ (.claiming _ _ _ begun) | working _ _ (.deduplicating begun)
  | working _ _ (.puttingOff _ _ begun) | working _ _ (.puttingBack _ begun)
  | working _ _ (.archiving _ begun) => some begun
  | _ => none

/-- Whether the worker is at the second statement of a probe. -/
def isBounding : Point α → Bool
  | polling _ _ (.bounding ..) => true
  | _ => false

/-- The registry follows just the tracked calls. -/
theorem isSome_trackedSince? (duties : Duties α) (point : Point α) :
    point.trackedSince?.isSome = (point.call duties).isTracked := by
  cases point with
  | polling session cycle stage => cases stage <;> rfl
  | working session job stage => cases stage <;> rfl
  | idle | starting | atConnectGate | connecting | atFailureGate | asleep | rollingBack | closing
    | crashed => rfl

end Point

/-! ## Turns -/

namespace Turn

variable {health : Health} {name : String} {since? : Option Instant} {turn : Turn α}
  {moment : Moment} {session : Nat} {point : Point α}

/-- The registry has, for the worker of a turn, an entry that began at some instant or none, and for
others it has what it had before. -/
structure Lists (health : Health) (name : String) (since? : Option Instant) (turn : Turn α) :
    Prop where
  named : turn.worker.name = name
  entries : ∀ other, turn.shared.health.entries other =
    if other = name then (since?.map (name, ·)).toList else health.entries other

/-- The registry follows the worker to its point. A call that it follows begins at present. -/
structure Registers (health : Health) (name : String) (moment : Moment) (turn : Turn α) :
    Prop where
  lists : turn.Lists health name turn.worker.point.trackedSince?
  begins : ∀ begun, turn.worker.point.trackedSince? = some begun →
    begun = moment.now ∧ turn.worker.point.isBounding = false

theorem Lists.of_eq (h : turn.Lists health name since?) {turn' : Turn α}
    (hname : turn'.worker.name = turn.worker.name)
    (hhealth : turn'.shared.health = turn.shared.health) : turn'.Lists health name since? :=
  ⟨hname.trans h.named, hhealth ▸ h.entries⟩

theorem Lists.endCall (h : turn.Lists health name since?) :
    turn.endCall.Lists health name none := by
  refine ⟨h.named, fun other ↦ ?_⟩
  simp only [Turn.endCall, h.named, Health.entries_finish, h.entries]
  split <;> rfl

theorem Lists.beginCall (h : turn.Lists health name since?) :
    (turn.beginCall moment).Lists health name (some moment.now) := by
  refine ⟨h.named, fun other ↦ ?_⟩
  simp only [Turn.beginCall, h.named, Health.entries_begin, h.entries]
  split <;> rfl

/-- The worker comes to a point at which the registry does not follow it. -/
theorem Lists.rests (h : turn.Lists health name none) (hpoint : point.trackedSince? = none) :
    (turn.goTo point).Registers health name moment := by
  refine ⟨?_, fun begun hbegun ↦ ?_⟩
  · rw [goTo_point, hpoint]
    exact h.of_eq rfl rfl
  · rw [goTo_point, hpoint] at hbegun
    cases hbegun

/-- The worker turns to a call that the registry follows. -/
theorem Lists.calls (h : turn.Lists health name since?)
    (hpoint : point.trackedSince? = some moment.now) (hfirst : point.isBounding = false) :
    ((turn.beginCall moment).goTo point).Registers health name moment := by
  refine ⟨?_, fun begun hbegun ↦ ?_⟩
  · rw [goTo_point, hpoint]
    exact h.beginCall.of_eq rfl rfl
  · rw [goTo_point, hpoint] at hbegun
    exact ⟨(Option.some.inj hbegun).symm, hfirst⟩

theorem beginCycle_registers (h : turn.Lists health name none) (cycle : Cycle) :
    (turn.beginCycle duties moment session cycle).Registers health name moment := by
  unfold beginCycle
  split
  · exact h.rests rfl
  · dsimp only
    split
    · exact Lists.rests (h.of_eq rfl rfl) rfl
    · exact Lists.rests (h.of_eq rfl rfl) rfl

theorem passFailureGate_registers (h : turn.Lists health name none) (waits : Bool) :
    (turn.passFailureGate duties moment session waits).Registers health name moment := by
  unfold passFailureGate
  split
  · exact h.rests rfl
  · split
    · exact h.rests rfl
    · exact beginCycle_registers h _

theorem passConnectGate_registers (h : turn.Lists health name none) :
    (turn.passConnectGate moment).Registers health name moment := by
  unfold passConnectGate
  split
  · exact Lists.rests (h.of_eq rfl rfl) rfl
  · split
    · exact h.rests rfl
    · exact h.calls rfl rfl

/-- The registry follows a worker whose search has failed. -/
theorem failFetch_registers (h : turn.Lists health name none) (session? : Option Nat)
    (fault : Fault) : (turn.failFetch moment session? fault).Registers health name moment := by
  cases session? with
  | none => exact passConnectGate_registers (h.of_eq rfl rfl)
  | some session => exact Lists.rests (h.of_eq rfl rfl) rfl

/-- The end of a connect is the end of a call. -/
theorem endConnect_registers (h : turn.Lists health name since?) (begun : Instant)
    (answer : Except DatabaseError Nat) :
    (turn.endConnect duties moment begun answer).Registers health name moment := by
  rcases answer with error | session
  · refine failFetch_registers ?_ none _
    exact h.endCall.of_eq rfl rfl
  · refine passFailureGate_registers ?_ false
    exact h.endCall.of_eq rfl rfl

theorem endClose_registers (h : turn.Lists health name none) (last : Bool)
    (answer : Except DatabaseError Unit) :
    (turn.endClose moment last answer).Registers health name moment := by
  cases last <;> cases answer
  case false.ok => exact passConnectGate_registers h
  case false.error => exact passConnectGate_registers (h.of_eq rfl rfl)
  case true.ok => exact Lists.rests (h.of_eq rfl rfl) rfl
  case true.error => exact Lists.rests (h.of_eq rfl rfl) rfl

theorem claim_registers (h : turn.Lists health name none) (cycle : Cycle) (queue : String)
    (rest : List String) (notBefore : Instant) :
    (turn.claim moment session cycle queue rest notBefore).Registers health name moment :=
  h.calls rfl rfl

theorem pollNext_registers (h : turn.Lists health name none) (cycle : Cycle)
    (queues : List String) :
    (turn.pollNext moment session cycle queues).Registers health name moment := by
  cases queues with
  | nil => exact h.rests rfl
  | cons queue rest =>
    unfold pollNext
    dsimp only
    split
    · exact claim_registers h cycle queue rest _
    · exact h.calls rfl rfl

theorem endProbe_registers (h : turn.Lists health name since?) (cycle : Cycle) (queue : String)
    (rest : List String) (begun bound : Instant) :
    (turn.endProbe duties moment session cycle queue rest begun bound).Registers health name
      moment := by
  unfold endProbe
  dsimp only
  split
  · exact Lists.rests (h.endCall.of_eq rfl rfl) rfl
  · refine claim_registers ?_ cycle queue rest bound
    exact h.endCall.of_eq rfl rfl

theorem endClaim_registers (h : turn.Lists health name since?) (cycle : Cycle) (queue : String)
    (rest : List String) (begun : Instant) (answer : Except DatabaseError (Option Row)) :
    (turn.endClaim duties moment session cycle queue rest begun answer).Registers health name
      moment := by
  have hended : (turn.endCall.time moment .dequeue begun).Lists health name none :=
    h.endCall.of_eq rfl rfl
  rcases answer with error | _ | row
  · exact failFetch_registers hended (some session) _
  · exact pollNext_registers hended cycle rest
  · simp only [endClaim, accept]
    split
    · exact failFetch_registers hended (some session) _
    · split
      · exact failFetch_registers hended (some session) _
      · exact Lists.rests (hended.of_eq rfl rfl) rfl

theorem endEmptyCycle_registers (h : turn.Lists health name none) (cycle : Cycle) :
    (turn.endEmptyCycle duties moment session cycle).Registers health name moment := by
  unfold endEmptyCycle
  split
  · exact passFailureGate_registers h true
  · dsimp only
    split
    · refine beginCycle_registers ?_ _
      exact h.of_eq rfl rfl
    · split
      · exact h.rests rfl
      · exact h.rests rfl

/-- Unless a probe goes on with its second statement. -/
theorem resumePoll_registers (cycle : Cycle) (stage : PollStage)
    (h : turn.Lists health name (Point.polling session cycle stage : Point α).trackedSince?)
    (answer : (Point.pollCall (α := α) session stage).Answer) :
    (turn.resumePoll duties moment session cycle stage answer).Registers health name moment ∨
      ∃ queue rest begun, stage = .probing queue rest begun ∧
        turn.resumePoll duties moment session cycle stage answer =
          turn.goTo (.polling session cycle (.bounding queue rest begun)) := by
  cases stage with
  | beginning =>
    rcases answer with error | ⟨⟩
    · exact .inl (failFetch_registers h (some session) _)
    · exact .inl (pollNext_registers h cycle _)
  | probing queue rest begun =>
    rcases answer with error | _ | oldest
    · refine .inl (failFetch_registers ?_ (some session) _)
      exact h.endCall.of_eq rfl rfl
    · exact .inr ⟨queue, rest, begun, rfl, rfl⟩
    · exact .inl (endProbe_registers h cycle queue rest begun oldest)
  | bounding queue rest begun =>
    rcases answer with error | recent
    · refine .inl (failFetch_registers ?_ (some session) _)
      exact h.endCall.of_eq rfl rfl
    · exact .inl (endProbe_registers h cycle queue rest begun recent)
  | replanning queue rest bound =>
    rcases answer with error | ⟨⟩
    · exact .inl (failFetch_registers h (some session) _)
    · refine .inl (claim_registers ?_ cycle queue rest bound)
      exact h.of_eq rfl rfl
  | claiming queue rest notBefore begun =>
    exact .inl (endClaim_registers h cycle queue rest begun answer)
  | abandoning =>
    rcases answer with error | ⟨⟩
    · exact .inl (failFetch_registers h (some session) _)
    · exact .inl (endEmptyCycle_registers h cycle)

/-! ### Jobs -/

theorem failJob_registers (h : turn.Lists health name none) (fault : Fault) :
    (turn.failJob session fault).Registers health name moment :=
  Lists.rests (h.of_eq rfl rfl) rfl

theorem settle_registers (h : turn.Lists health name none) (success : Bool) :
    (turn.settle duties moment session success).Registers health name moment := by
  refine passFailureGate_registers ?_ true
  exact h.of_eq rfl rfl

theorem settleFailure_registers (h : turn.Lists health name none) (job : Job α)
    (operation status : String) (failure : JobFailure) :
    (turn.settleFailure duties moment session job operation status failure).Registers health name
      moment := by
  refine settle_registers ?_ _
  exact h.of_eq rfl rfl

theorem endSave_registers (h : turn.Lists health name none) (job : Job α) :
    (turn.endSave duties moment session job).Registers health name moment := by
  unfold endSave
  split
  · exact h.calls rfl rfl
  · exact h.rests rfl

theorem mergeAll_registers (deduplicator : Deduplicator α) (h : turn.Lists health name none)
    (job : Job α) (rows : List Row) :
    (turn.mergeAll duties deduplicator session job rows).Registers health name moment := by
  induction rows generalizing turn job with
  | nil => exact h.rests rfl
  | cons row rest ih =>
    unfold mergeAll
    split
    · exact failJob_registers h _
    · split
      · exact failJob_registers h _
      · dsimp only
        split
        · exact Lists.rests (h.of_eq rfl rfl) rfl
        · refine ih ?_ _
          exact h.of_eq rfl rfl

/-- The end of a lookup is the end of a call. -/
theorem endDuplicates_registers (h : turn.Lists health name since?) (job : Job α) (begun : Instant)
    (answer : Except DatabaseError (List Row)) :
    (turn.endDuplicates duties moment session job begun answer).Registers health name moment := by
  have hended : ((turn.endCall.time moment .deleteDuplicate begun).endLookup moment begun).Lists
      health name none := by
    refine h.endCall.of_eq (by rw [endLookup_worker, time_worker]) ?_
    unfold endLookup
    dsimp only
    split <;> rfl
  unfold endDuplicates
  dsimp only
  split
  · exact failJob_registers hended _
  · exact mergeAll_registers _ hended job _
  · exact hended.rests rfl

theorem endUndo_registers (h : turn.Lists health name none) (job : Job α) (failure : JobFailure) :
    (turn.endUndo duties moment session job failure).Registers health name moment := by
  unfold endUndo
  split
  · dsimp only
    split
    · exact Lists.calls (h.of_eq rfl rfl) rfl rfl
    · exact h.calls rfl rfl
  · exact h.calls rfl rfl
  · exact h.rests rfl

theorem endInsertion_registers (h : turn.Lists health name since?) (job : Job α) (timer : Timer)
    (begun : Instant) (operation remark : String) {next : JobStage}
    (hnext : (Point.working session job next).trackedSince? = none)
    (answer : Except DatabaseError Nat) :
    (turn.endInsertion moment session job timer begun operation remark next answer).Registers health
      name moment := by
  unfold endInsertion
  cases answer with
  | error error =>
    refine failJob_registers ?_ _
    exact h.endCall.of_eq rfl rfl
  | ok rows =>
    have hremarked : (if rows = 1 then turn
        else turn.log .warn remark [("rows", .number rows)]).Lists health name since? := by
      split
      · exact h
      · exact h.of_eq rfl rfl
    exact Lists.rests (hremarked.endCall.of_eq rfl rfl) hnext

/-- The registry follows a worker through every stage of a claimed job. -/
theorem resumeJob_registers (job : Job α) (stage : JobStage)
    (h : turn.Lists health name (Point.working session job stage).trackedSince?)
    (answer : (Point.jobCall duties session job stage).Answer) :
    (turn.resumeJob duties moment session job stage answer).Registers health name moment := by
  cases stage with
  | saving =>
    rcases answer with error | ⟨⟩
    · exact failJob_registers h _
    · exact endSave_registers h job
  | deduplicating begun => exact endDuplicates_registers h job begun answer
  | delivering =>
    simp only [resumeJob, endDelivery]
    split <;> exact Lists.rests h rfl
  | releasing | committingClaim =>
    rcases answer with error | ⟨⟩
    · exact failJob_registers h _
    · exact Lists.rests h rfl
  | committingSuccess =>
    rcases answer with error | ⟨⟩
    · exact failJob_registers h _
    · refine settle_registers ?_ true
      exact Lists.of_eq h rfl rfl
  | undoing failure =>
    rcases answer with error | ⟨⟩
    · exact failJob_registers h _
    · exact endUndo_registers h job failure
  | puttingOff failure _ begun => exact endInsertion_registers h job _ begun _ _ rfl answer
  | puttingBack failure begun => exact endInsertion_registers h job _ begun _ _ rfl answer
  | archiving failure begun => exact endInsertion_registers h job _ begun _ _ rfl answer
  | committingPutOff failure | committingPutBack failure | committingArchive failure =>
    rcases answer with error | ⟨⟩
    · exact failJob_registers h _
    · exact settleFailure_registers h job _ _ failure
  | beginningArchive failure =>
    rcases answer with error | ⟨⟩
    · exact failJob_registers h _
    · exact Lists.calls h rfl rfl

end Turn

open Turn in
/-- When a worker goes on, the registry follows it. Only the second statement of a probe is not a
new call. -/
theorem Worker.resume_registers (duties : Duties α) (moment : Moment) (shared : Shared)
    (worker : Worker α) (answer : (worker.call duties).Answer)
    (h : shared.health.entries worker.name =
      (worker.point.trackedSince?.map (worker.name, ·)).toList) :
    let turn := worker.resume duties moment shared answer
    turn.Lists shared.health worker.name turn.worker.point.trackedSince? ∧
      ∀ begun, turn.worker.point.trackedSince? = some begun →
        if turn.worker.point.isBounding then worker.point.trackedSince? = some begun
        else begun = moment.now := by
  have hbefore : Turn.Lists shared.health worker.name worker.point.trackedSince?
      ⟨shared, worker, []⟩ := by
    refine ⟨rfl, fun other ↦ ?_⟩
    split
    · next hother => rw [hother, h]
    · rfl
  suffices hcases : (worker.resume duties moment shared answer).Registers shared.health worker.name
      moment ∨ ∃ session cycle queue rest begun,
        worker.point = .polling session cycle (.probing queue rest begun) ∧
          worker.resume duties moment shared answer = Turn.goTo ⟨shared, worker, []⟩
            (.polling session cycle (.bounding queue rest begun)) by
    rcases hcases with hregisters | ⟨session, cycle, queue, rest, begun, hpoint, hturn⟩
    · refine ⟨hregisters.lists, fun begun hbegun ↦ ?_⟩
      obtain ⟨hnow, hfirst⟩ := hregisters.begins begun hbegun
      simpa only [hfirst, Bool.false_eq_true, if_false] using hnow
    · rw [hturn]
      rw [hpoint] at hbefore
      refine ⟨hbefore.of_eq rfl rfl, fun begun' hbegun ↦ ?_⟩
      rw [goTo_point, Point.isBounding, if_pos rfl, hpoint]
      exact hbegun
  obtain ⟨name, bounds, countdown, point⟩ := worker
  cases point with
  | idle | crashed => exact .inl ⟨hbefore, nofun⟩
  | starting => exact .inl (passConnectGate_registers (hbefore.of_eq rfl rfl))
  | atConnectGate sleeper => exact .inl (passConnectGate_registers hbefore)
  | connecting begun => exact .inl (endConnect_registers hbefore begun answer)
  | atFailureGate session waits sleeper => exact .inl (passFailureGate_registers hbefore waits)
  | asleep session wakesAt =>
    refine .inl ?_
    simp only [Worker.resume, Turn.resume, wake]
    split
    · exact beginCycle_registers hbefore _
    · exact ⟨hbefore, nofun⟩
  | polling session cycle stage =>
    refine (resumePoll_registers cycle stage hbefore answer).imp_right ?_
    rintro ⟨queue, rest, begun, rfl, hturn⟩
    exact ⟨session, cycle, queue, rest, begun, rfl, hturn⟩
  | working session job stage => exact .inl (resumeJob_registers job stage hbefore answer)
  | rollingBack session fault =>
    rcases answer with error | ⟨⟩ <;> exact .inl (Lists.rests (hbefore.of_eq rfl rfl) rfl)
  | closing session last => exact .inl (endClose_registers hbefore last answer)

end TableQueue
