import TableQueue.Proofs.World.Connections
import TableQueue.Proofs.World.Turns

/-!
# What the server holds for a worker

At every point a worker relies on the transaction of its session being in a certain state, unless
the connection is gone. A point suits a store when the transaction is in that state. An answer from
the server keeps this so, wherever it leads, and so does everything that spares the session.
-/

namespace TableQueue

variable {α : Type}

/-- The changes of a transaction that has claimed a row and done nothing else. -/
def Changes.claim (number : Nat) : Changes := ⟨[number], [], [], []⟩

namespace Duties

/-- The job of a row with the jobs of duplicates merged into it. -/
structure Renders (duties : Duties α) (row : Row) (merged : List Row) (job : Job α) : Prop where
  details : row.metadata = .ok job.details
  payload : ∃ payload, duties.codec.decode row.job = .ok payload ∧
    duties.mergeRows payload merged = some job.payload
  alone : duties.deduplicator = none → merged = []

def savedRow (duties : Duties α) (job : Job α) (dequeueAfter : Instant) : Row :=
  ⟨job.details.queue, some job.details.queued.instant, dequeueAfter, some job.details.tries,
    duties.codec.encode job.payload⟩

def archivedRow (duties : Duties α) (job : Job α) (failure : JobFailure) (failedAt : Instant) :
    ArchivedRow :=
  ⟨job.details.queue, job.details.queued.instant, failedAt, failure.diagnosis,
    duties.codec.encode job.payload⟩

end Duties

/-- A queue row whose job, with the duplicates merged into it, is worked on. -/
structure Store.Holds (duties : Duties α) (store : Store) (merged : List Row) (job : Job α)
    (entry : Entry) : Prop where
  mem : entry ∈ store.queue
  renders : duties.Renders entry.row merged job

/-- What a stage of a claimed job relies on. -/
def JobStage.Suits (duties : Duties α) (store : Store) (merged : List Row) (session : Nat)
    (job : Job α) : JobStage → Prop
  | .saving => merged = [] ∧ ∃ entry, store.Holds duties merged job entry ∧
    store.transaction session = .active (.claim entry.number) none
  | .deduplicating _ => merged = [] ∧ duties.deduplicator.isSome ∧
    ∃ entry, store.Holds duties merged job entry ∧
      store.transaction session = .active (.claim entry.number) (some (.claim entry.number))
  | .delivering | .releasing | .undoing _ => ∃ entry taken noted,
    store.Holds duties merged job entry ∧ taken ⊆ store.queue ∧
      (entry.number :: taken.map Entry.number).Nodup ∧ taken.map Entry.row = merged ∧
      (store.transaction session = .active ⟨entry.number :: taken.map Entry.number, [], [], noted⟩
          (some (.claim entry.number)) ∨
        store.transaction session = .failed ⟨entry.number :: taken.map Entry.number, [], [], noted⟩
          (some (.claim entry.number)))
  | .committingSuccess => ∃ entry taken noted,
    store.Holds duties merged job entry ∧ taken ⊆ store.queue ∧
      (entry.number :: taken.map Entry.number).Nodup ∧ taken.map Entry.row = merged ∧
      store.transaction session =
        .active ⟨entry.number :: taken.map Entry.number, [], [], noted⟩ none
  | .puttingOff .. | .puttingBack .. | .committingClaim _ => ∃ entry,
    store.Holds duties merged job entry ∧
      store.transaction session = .active (.claim entry.number) (some (.claim entry.number))
  | .committingPutOff _ => ∃ entry number since dequeueAfter,
    store.Holds duties merged job entry ∧ store.transaction session =
      .active ⟨[entry.number], [⟨number, since, duties.savedRow job dequeueAfter⟩], [], []⟩
        (some (.claim entry.number))
  | .committingPutBack _ => ∃ entry number since,
    store.Holds duties merged job entry ∧ store.transaction session =
      .active ⟨[entry.number],
        [⟨number, since, duties.savedRow job job.details.dequeueAfter.instant⟩], [], []⟩
        (some (.claim entry.number))
  | .beginningArchive _ => store.transaction session = .idle
  | .archiving .. => store.transaction session = .active .none none
  | .committingArchive failure => ∃ number failedAt, store.transaction session =
    .active ⟨[], [], [(number, duties.archivedRow job failure failedAt)], []⟩ none

/-- What a stage of a claimed job presupposes about the handler. -/
def JobStage.Heard (attempt : Attempt) : JobStage → Prop
  | .releasing | .committingSuccess => attempt.reception? = some .accepted
  | .undoing failure | .puttingOff failure _ _ | .committingPutOff failure
  | .puttingBack failure _ | .committingPutBack failure | .committingClaim failure
  | .beginningArchive failure | .archiving failure _ | .committingArchive failure =>
    attempt.reception?.bind Reception.failure? = some failure
  | .saving | .deduplicating _ | .delivering => True

namespace Point

/-- What a point relies on. -/
def Suits (duties : Duties α) (store : Store) (attempt : Attempt) : Point α → Prop
  | atFailureGate session _ _ | asleep session _ | polling session _ .beginning =>
    store.transaction session = .idle
  | polling session _ _ => store.transaction session = .active .none none
  | working session job stage =>
    stage.Heard attempt ∧ stage.Suits duties store attempt.merged session job
  | idle | starting | atConnectGate _ | connecting _ | rollingBack .. | closing .. | crashed .. =>
    True

/-- A point suits the store unless its connection is gone. -/
def Fits (duties : Duties α) (server : Server) (attempt : Attempt) (point : Point α) : Prop :=
  (∀ session, point.session? = some session → server.isLive session = true) →
    point.Suits duties server.store attempt

/-- The session that a worker holds at a point, once its call is answered. -/
def heldSession? (duties : Duties α) :
    (point : Point α) → Option (point.call duties).Answer → Option Nat
  | .connecting _, some (.ok session) => some session
  | .closing .., some _ => none
  | point, _ => point.session?

end Point

namespace Member

variable {duties : Duties α}

def session? (member : Member duties) : Option Nat :=
  member.worker.point.heldSession? duties member.answer?

/-- Where a member is or, once its call is answered, where it may be next. -/
def Prospect (member : Member duties) (bounds : Bounds) (point : Point α) : Prop :=
  match member.answer? with
  | none => bounds = member.worker.bounds ∧ point = member.worker.point
  | some answer => member.worker.point.Leads duties member.worker.bounds answer bounds point

end Member

namespace Point

variable {duties : Duties α} {server : Server} {bounds bounds' : Bounds}
  {point point' : Point α} {session : Nat}

/-! ## Sessions along the way -/

theorem IsUnconnected.session? (h : point.IsUnconnected) : point.session? = none := by
  cases point <;> first | rfl | exact h.elim

theorem IsResting.session? (h : point.IsResting session) : point.session? = some session := by
  cases point with
  | closing | atFailureGate | asleep => exact congrArg some h
  | polling other cycle stage =>
    cases stage <;> first | exact congrArg some h | exact h.elim
  | idle | starting | atConnectGate | connecting | working | rollingBack | crashed => exact h.elim

theorem Searches.session? {cycle : Cycle} {queues : List String}
    (h : Searches session cycle bounds queues bounds' point) : point.session? = some session := by
  obtain ⟨-, h⟩ := h
  split at h
  · rw [h]
    rfl
  · split at h <;>
    · obtain ⟨_, rfl⟩ := h
      rfl

theorem Claims.session? {cycle : Cycle} {queue : String} {rest : List String} {bound : Instant}
    (h : Claims session cycle bounds queue rest bound bounds' point) :
    point.session? = some session := by
  obtain ⟨-, _, rfl⟩ := h
  rfl

theorem Finds.session? {cycle : Cycle} {queue : String} {rest : List String} {bound : Instant}
    (h : Finds session cycle bounds queue rest bound bounds' point) :
    point.session? = some session := by
  rcases h with h | ⟨-, rfl⟩
  · exact h.session?
  · rfl

theorem Goes.session? {job : Job α} {stage : JobStage}
    (h : Goes session job bounds stage bounds' point) : point.session? = some session := by
  rw [h.2]
  rfl

theorem Fails.session? (h : Fails session bounds bounds' point) :
    point.session? = some session := by
  obtain ⟨-, _, rfl⟩ := h
  rfl

theorem GivesUp.session? (h : GivesUp session bounds bounds' point) :
    point.session? = some session := by
  rw [h.2]
  rfl

theorem Disposes.session? {job : Job α} {failure : JobFailure}
    (h : Disposes duties session job failure bounds bounds' point) :
    point.session? = some session := by
  unfold Disposes at h
  split at h
  · obtain ⟨_, h⟩ := h
    exact h.session?
  · obtain ⟨_, h⟩ := h
    exact h.session?
  · exact h.session?

/-- A turn in a pass keeps the session. -/
theorem PollLeads.session? {cycle : Cycle} {stage : PollStage}
    {answer : (@pollCall α session stage).Answer}
    (h : PollLeads duties bounds session cycle stage answer bounds' point) :
    point.session? = some session := by
  cases stage with
  | beginning =>
    rcases answer with error | ⟨⟩
    · exact GivesUp.session? h
    · exact Searches.session? h
  | probing =>
    rcases answer with error | _ | oldest
    · exact GivesUp.session? h
    · rw [h.2]
      rfl
    · exact Finds.session? h
  | bounding =>
    rcases answer with error | recent
    · exact GivesUp.session? h
    · exact Finds.session? h
  | replanning =>
    rcases answer with error | ⟨⟩
    · exact GivesUp.session? h
    · exact Claims.session? h
  | claiming =>
    rcases answer with error | _ | row
    · exact GivesUp.session? h
    · exact Searches.session? h
    · rcases h with h | ⟨job, -, -, rfl⟩
      · exact h.session?
      · rfl
  | abandoning =>
    rcases answer with error | ⟨⟩
    · exact GivesUp.session? h
    · exact h.1.session?

/-- A turn at a claimed job keeps the session. -/
theorem JobLeads.session? {job : Job α} {stage : JobStage}
    {answer : (jobCall duties session job stage).Answer}
    (h : JobLeads duties bounds session job stage answer bounds' point) :
    point.session? = some session := by
  cases stage with
  | saving =>
    rcases answer with error | ⟨⟩
    · exact Fails.session? h
    · rcases h with h | ⟨-, _, h⟩ <;> exact h.session?
  | deduplicating =>
    rcases answer with error | rows
    · exact Fails.session? h
    · rcases h with ⟨_, -, h⟩ | h | ⟨-, _, rfl⟩
      · exact h.session?
      · exact h.session?
      · rfl
  | delivering =>
    cases hfailure : answer.failure? <;>
    · simp only [JobLeads, hfailure] at h
      exact Goes.session? h
  | releasing | committingClaim | puttingOff | puttingBack | archiving =>
    rcases answer with error | reply
    · exact Fails.session? h
    · exact Goes.session? h
  | undoing =>
    rcases answer with error | ⟨⟩
    · exact Fails.session? h
    · exact Disposes.session? h
  | beginningArchive =>
    rcases answer with error | ⟨⟩
    · exact Fails.session? h
    · obtain ⟨_, h⟩ := h
      exact h.session?
  | committingSuccess | committingPutOff | committingPutBack | committingArchive =>
    rcases answer with error | ⟨⟩
    · exact Fails.session? h
    · exact h.1.session?

/-- A worker that is done stays done. -/
theorem Leads.idle {answer : (point.call duties).Answer}
    (h : point.Leads duties bounds answer bounds' point') (hidle : point = .idle) :
    point' = .idle := by
  subst hidle
  exact h.2

/-- A turn changes nothing about which session is held. -/
theorem Leads.session? {answer : (point.call duties).Answer}
    (h : point.Leads duties bounds answer bounds' point') :
    point'.session? = point.heldSession? duties (some answer) := by
  cases point with
  | idle | crashed =>
    rw [h.2]
    rfl
  | starting | atConnectGate | closing => exact h.2.session?
  | connecting =>
    rcases answer with error | session
    · exact h.2.session?
    · exact h.2.session?
  | atFailureGate | asleep => exact h.1.session?
  | polling => exact PollLeads.session? h
  | working => exact JobLeads.session? h
  | rollingBack => exact GivesUp.session? h

end Point

end TableQueue
