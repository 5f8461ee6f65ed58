import TableQueue.Proofs.Content

/-!
# Attempts under way

When a handler has received a job, some statements follow before the outcome of the attempt is
settled. In the meantime the job and the reception belong together, and the transaction holds the
row of the job until it commits what becomes of it. Suppose that there is no deduplication, that no
statement fails and that no worker loses its connection. Then an attempt begins when a job is
received, and it goes on unchanged until the job is accepted, given back or archived.
-/

namespace TableQueue

variable {α : Type} {duties : Duties α}

/-- An attempt whose outcome is not settled yet. -/
structure Trial (α : Type) where
  job : Job α
  reception : Reception
  /-- The numbers of the rows that its transaction deletes. -/
  deleted : List Nat

/-- What a stage presupposes about the decision on a failed attempt. -/
def JobStage.Disposed (duties : Duties α) (job : Job α) : JobStage → Prop
  | .puttingOff failure _ _ | .committingPutOff failure | .puttingBack failure _
  | .committingPutBack failure => duties.settings.disposition job.details failure ≠ .archive
  | .committingClaim failure | .beginningArchive failure | .archiving failure _
  | .committingArchive failure => duties.settings.disposition job.details failure = .archive
  | .saving | .deduplicating _ | .delivering | .releasing | .committingSuccess | .undoing _ => True

namespace Point

/-- What a point presupposes about the decision on a failed attempt. -/
def Disposed (duties : Duties α) : Point α → Prop
  | working _ job stage => stage.Disposed duties job
  | _ => True

/-- The job that was received last, until its outcome is settled or a statement fails. -/
def tried? (duties : Duties α) :
    (point : Point α) → Option (point.call duties).Answer → Option (Job α)
  | working _ job .delivering, some _
  | working _ job .releasing, none | working _ job .releasing, some (.ok _)
  | working _ job .committingSuccess, none
  | working _ job (.undoing _), none | working _ job (.undoing _), some (.ok _)
  | working _ job (.puttingOff ..), none | working _ job (.puttingOff ..), some (.ok _)
  | working _ job (.committingPutOff _), none
  | working _ job (.puttingBack ..), none | working _ job (.puttingBack ..), some (.ok _)
  | working _ job (.committingPutBack _), none
  | working _ job (.committingClaim _), none | working _ job (.committingClaim _), some (.ok _)
  | working _ job (.beginningArchive _), none | working _ job (.beginningArchive _), some (.ok _)
  | working _ job (.archiving ..), none | working _ job (.archiving ..), some (.ok _)
  | working _ job (.committingArchive _), none => some job
  | _, _ => none

def trial? (duties : Duties α) (store : Store) (attempt : Attempt) (point : Point α)
    (answer? : Option (point.call duties).Answer) : Option (Trial α) := do
  let job ← point.tried? duties answer?
  let reception ← attempt.reception?
  let session ← point.session?
  return ⟨job, reception, (store.transaction session).changes.deleted⟩

end Point

/-- What becomes of the attempt of a worker when something happens to its job. -/
inductive Tries (duties : Duties α) (store : Store) (deleted : List Nat) :
    Option (Happening α) → Option (Trial α) → Option (Trial α) → Prop where
  | quiet {trial? : Option (Trial α)} : Tries duties store deleted none trial? trial?
  | received {job : Job α} {reception : Reception} {entry : Entry} :
      store.Holds duties [] job entry → deleted = [entry.number] →
      Tries duties store deleted (some (.received job reception)) none
        (some ⟨job, reception, deleted⟩)
  | accepted {job : Job α} :
      Tries duties store deleted (some (.accepted job)) (some ⟨job, .accepted, deleted⟩) none
  | returned {job : Job α} {failure : JobFailure} {reception : Reception} :
      reception.failure? = some failure →
      duties.settings.disposition job.details failure ≠ .archive →
      Tries duties store deleted (some (.returned job failure)) (some ⟨job, reception, deleted⟩) none
  | removed {job : Job α} {failure : JobFailure} {reception : Reception} {deleted' : List Nat} :
      reception.failure? = some failure →
      duties.settings.disposition job.details failure = .archive → deleted' = [] →
      Tries duties store deleted (some (.removed job failure)) (some ⟨job, reception, deleted⟩)
        (some ⟨job, reception, deleted'⟩)
  | archived {job : Job α} {failure : JobFailure} {reception : Reception} :
      reception.failure? = some failure → deleted = [] →
      Tries duties store deleted (some (.archived job failure)) (some ⟨job, reception, deleted⟩) none

/-- An attempt goes on while its transaction deletes the same rows. -/
theorem Tries.unchanged {store : Store} {deleted deleted' : List Nat} {job : Job α}
    {reception : Reception} (h : deleted' = deleted) :
    Tries duties store deleted none (some ⟨job, reception, deleted⟩)
      (some ⟨job, reception, deleted'⟩) :=
  h ▸ quiet

/-! ## Attempts along the way -/

namespace Point

variable {bounds bounds' : Bounds} {point point' : Point α} {session : Nat} {job : Job α}

theorem tried?_of_isWorking (h : point.isWorking = false)
    (answer? : Option (point.call duties).Answer) : point.tried? duties answer? = none := by
  cases point with
  | working => cases h
  | idle | starting | atConnectGate | connecting | atFailureGate | asleep | polling | rollingBack
    | closing | crashed => rfl

theorem disposed_of_isWorking (h : point.isWorking = false) : point.Disposed duties := by
  cases point with
  | working => cases h
  | idle | starting | atConnectGate | connecting | atFailureGate | asleep | polling | rollingBack
    | closing | crashed => trivial

theorem IsUnconnected.isWorking (h : point.IsUnconnected) : point.isWorking = false := by
  cases point <;> first | rfl | exact h.elim

theorem IsResting.isWorking (h : point.IsResting session) : point.isWorking = false := by
  cases point <;> first | rfl | exact h.elim

theorem GivesUp.isWorking (h : GivesUp session bounds bounds' point) : point.isWorking = false := by
  rw [h.2]
  rfl

theorem Fails.isWorking (h : Fails session bounds bounds' point) : point.isWorking = false := by
  obtain ⟨-, _, rfl⟩ := h
  rfl

theorem Searches.isWorking {cycle : Cycle} {queues : List String}
    (h : Searches session cycle bounds queues bounds' point) : point.isWorking = false := by
  obtain ⟨-, h⟩ := h
  split at h
  · rw [h]
    rfl
  · split at h <;>
    · obtain ⟨_, rfl⟩ := h
      rfl

theorem Claims.isWorking {cycle : Cycle} {queue : String} {rest : List String} {bound : Instant}
    (h : Claims session cycle bounds queue rest bound bounds' point) : point.isWorking = false := by
  obtain ⟨-, _, rfl⟩ := h
  rfl

theorem Finds.isWorking {cycle : Cycle} {queue : String} {rest : List String} {bound : Instant}
    (h : Finds session cycle bounds queue rest bound bounds' point) : point.isWorking = false := by
  rcases h with h | ⟨-, rfl⟩
  · exact h.isWorking
  · rfl

/-- A search leads to the first stage of a claimed job, if it leads to a job at all. -/
theorem PollLeads.isWorking {cycle : Cycle} {stage : PollStage}
    {answer : (@pollCall α session stage).Answer}
    (h : PollLeads duties bounds session cycle stage answer bounds' point) :
    point.isWorking = false ∨ ∃ job, point = working session job .saving := by
  cases stage with
  | beginning =>
    rcases answer with error | ⟨⟩
    · exact .inl (GivesUp.isWorking h)
    · exact .inl (Searches.isWorking h)
  | probing =>
    rcases answer with error | _ | oldest
    · exact .inl (GivesUp.isWorking h)
    · rw [h.2]
      exact .inl rfl
    · exact .inl (Finds.isWorking h)
  | bounding =>
    rcases answer with error | recent
    · exact .inl (GivesUp.isWorking h)
    · exact .inl (Finds.isWorking h)
  | replanning =>
    rcases answer with error | ⟨⟩
    · exact .inl (GivesUp.isWorking h)
    · exact .inl (Claims.isWorking h)
  | claiming =>
    rcases answer with error | _ | row
    · exact .inl (GivesUp.isWorking h)
    · exact .inl (Searches.isWorking h)
    · rcases h with h | ⟨job, -, -, hpoint⟩
      · exact .inl h.isWorking
      · exact .inr ⟨job, hpoint⟩
  | abandoning =>
    rcases answer with error | ⟨⟩
    · exact .inl (GivesUp.isWorking h)
    · exact .inl h.1.isWorking

/-- The point that follows an answer carries on what is known about the attempt. -/
structure Carries (duties : Duties α) (point : Point α) (answer : (point.call duties).Answer)
    (point' : Point α) : Prop where
  tried : point'.tried? duties none = point.tried? duties (some answer)
  disposed : point.Disposed duties → point'.Disposed duties

theorem carries_of_isWorking {answer : (point.call duties).Answer} (h : point'.isWorking = false)
    (hnone : point.tried? duties (some answer) = none) : point.Carries duties answer point' where
  tried := (tried?_of_isWorking h none).trans hnone.symm
  disposed _ := disposed_of_isWorking h

theorem Goes.carries {stage : JobStage} {answer : (point.call duties).Answer} {job : Job α}
    (h : Goes session job bounds stage bounds' point')
    (htried : (working session job stage).tried? duties none = point.tried? duties (some answer))
    (hdisposed : point.Disposed duties → stage.Disposed duties job) :
    point.Carries duties answer point' where
  tried := by rw [h.2, htried]
  disposed hpoint := by
    rw [h.2]
    exact hdisposed hpoint

theorem Disposes.carries {failure : JobFailure}
    (h : Disposes duties session job failure bounds bounds' point') :
    (working session job (.undoing failure)).Carries duties (.ok ()) point' := by
  unfold Disposes at h
  split at h
  · next hdisposition =>
    obtain ⟨_, h⟩ := h
    exact h.carries rfl fun _ ↦ by simp [JobStage.Disposed, hdisposition]
  · next hdisposition =>
    obtain ⟨_, h⟩ := h
    exact h.carries rfl fun _ ↦ by simp [JobStage.Disposed, hdisposition]
  · next hdisposition => exact h.carries rfl fun _ ↦ hdisposition

/-- The answer at a stage settles the attempt, or the attempt goes on at the next stage. -/
theorem JobLeads.carries {stage : JobStage} {answer : (jobCall duties session job stage).Answer}
    (h : JobLeads duties bounds session job stage answer bounds' point') :
    (working session job stage).Carries duties answer point' := by
  cases stage with
  | saving =>
    rcases answer with error | ⟨⟩
    · exact carries_of_isWorking (Fails.isWorking h) rfl
    · rcases h with h | ⟨-, _, h⟩ <;> exact h.carries rfl id
  | deduplicating =>
    rcases answer with error | rows
    · exact carries_of_isWorking (Fails.isWorking h) rfl
    · rcases h with ⟨_, -, h⟩ | h | ⟨-, _, rfl⟩
      · exact h.carries rfl fun _ ↦ trivial
      · exact carries_of_isWorking h.isWorking rfl
      · exact carries_of_isWorking rfl rfl
  | delivering =>
    cases hfailure : answer.failure? <;>
    · simp only [JobLeads, hfailure] at h
      exact h.carries rfl fun _ ↦ trivial
  | releasing | puttingOff | puttingBack | committingClaim | archiving =>
    rcases answer with error | reply
    · exact carries_of_isWorking (Fails.isWorking h) rfl
    · exact Goes.carries h rfl id
  | undoing =>
    rcases answer with error | ⟨⟩
    · exact carries_of_isWorking (Fails.isWorking h) rfl
    · exact Disposes.carries h
  | beginningArchive =>
    rcases answer with error | ⟨⟩
    · exact carries_of_isWorking (Fails.isWorking h) rfl
    · obtain ⟨_, h⟩ := h
      exact h.carries rfl id
  | committingSuccess | committingPutOff | committingPutBack | committingArchive =>
    rcases answer with error | ⟨⟩
    · exact carries_of_isWorking (Fails.isWorking h) rfl
    · exact carries_of_isWorking h.1.isWorking rfl

/-- Away from a claimed job an answer leads to the first stage of one at most. -/
theorem Leads.isWorking {answer : (point.call duties).Answer}
    (h : point.Leads duties bounds answer bounds' point') (hpoint : point.isWorking = false) :
    point'.isWorking = false ∨ ∃ session job, point' = working session job .saving := by
  cases point with
  | idle | crashed =>
    rw [h.2]
    exact .inl rfl
  | starting | atConnectGate | closing => exact .inl h.2.isWorking
  | connecting =>
    rcases answer with error | session
    · exact .inl h.2.isWorking
    · exact .inl h.2.isWorking
  | atFailureGate | asleep => exact .inl h.1.isWorking
  | rollingBack => exact .inl (GivesUp.isWorking h)
  | polling session => exact (PollLeads.isWorking h).imp_right fun hsaving ↦ ⟨session, hsaving⟩
  | working => cases hpoint

/-- Every turn carries on what is known about the attempt. -/
theorem Leads.carries {answer : (point.call duties).Answer}
    (h : point.Leads duties bounds answer bounds' point') :
    point.Carries duties answer point' := by
  cases hpoint : point.isWorking with
  | false =>
    have hnone : point.tried? duties (some answer) = none := tried?_of_isWorking hpoint _
    rcases h.isWorking hpoint with hafter | ⟨session, job, rfl⟩
    · exact carries_of_isWorking hafter hnone
    · exact ⟨hnone.symm, fun _ ↦ trivial⟩
  | true =>
    cases point with
    | working => exact JobLeads.carries h
    | idle | starting | atConnectGate | connecting | atFailureGate | asleep | polling | rollingBack
      | closing | crashed => cases hpoint

/-! ## Answers to the work on a job -/

section Answered

variable {server server' : Server} {store store' : Store} {attempt : Attempt} {now : Instant}
  {chance : Chance}

theorem exists_reception {failure : JobFailure}
    (h : attempt.reception?.bind Reception.failure? = some failure) :
    ∃ reception, attempt = ⟨attempt.merged, some reception⟩ ∧ reception.failure? = some failure := by
  obtain ⟨reception, hreception, hfailure⟩ := Option.bind_eq_some_iff.1 h
  exact ⟨reception, by rw [← hreception], hfailure⟩

/-- The release of the savepoint does not change which rows are deleted. -/
theorem Fits.deleted_of_release (h : (working session job .releasing).Fits duties server attempt)
    (hanswer : server.answer now chance (jobCall duties session job .releasing) =
      (server', some (.ok ()))) :
    (server'.store.transaction session).changes.deleted =
      (server.store.transaction session).changes.deleted := by
  obtain ⟨⟨-, entry, taken, noted, -, -, -, -, hstate⟩, _, -, hperform⟩ := h.perform rfl hanswer
  rcases hstate with hactive | hfailed
  · rw [Store.perform_releaseSavepoint now hactive] at hperform
    rw [← (Prod.mk.inj hperform).1, Store.transaction_setTransaction_self, hactive]
    rfl
  · rw [Store.perform_of_failed now hfailed rfl] at hperform
    cases congrArg Prod.snd hperform

/-- Without duplicates the rollback to the savepoint does not change which rows are deleted. -/
theorem Fits.deleted_of_undo {failure : JobFailure} (halone : duties.deduplicator = none)
    (h : (working session job (.undoing failure)).Fits duties server attempt)
    (hanswer : server.answer now chance (jobCall duties session job (.undoing failure)) =
      (server', some (.ok ()))) :
    (server'.store.transaction session).changes.deleted =
      (server.store.transaction session).changes.deleted := by
  obtain ⟨⟨-, entry, taken, noted, hholds, -, -, hrows, hstate⟩, _, -, hperform⟩ :=
    h.perform rfl hanswer
  rw [hholds.renders.alone halone, List.map_eq_nil_iff] at hrows
  rw [Store.perform_rollbackToSavepoint now hstate] at hperform
  rw [← (Prod.mk.inj hperform).1, Store.transaction_setTransaction_self]
  rcases hstate with hstate | hstate <;> rw [hstate, hrows] <;> rfl

/-- The archive deletes nothing. -/
theorem Fits.deleted_of_archive {failure : JobFailure} {begun : Instant} {rows : Nat}
    (h : (working session job (.archiving failure begun)).Fits duties server attempt)
    (hanswer : server.answer now chance (jobCall duties session job (.archiving failure begun)) =
      (server', some (.ok rows))) :
    (server'.store.transaction session).changes.deleted =
      (server.store.transaction session).changes.deleted := by
  obtain ⟨⟨-, hactive⟩, _, -, hperform⟩ := h.perform rfl hanswer
  rw [Store.perform_of_active now hactive] at hperform
  have hstore : (server.store.execute session now (.archive job.details.queue
      job.details.queued.instant _ (duties.codec.encode job.payload))).1 = server'.store :=
    congrArg Prod.fst hperform
  rw [← hstore, Store.transaction_archive hactive, hactive]
  rfl

/-- Once the claim of a failed job is committed, nothing is left to delete. -/
theorem Fits.deleted_of_commit {failure : JobFailure}
    (h : (working session job (.committingClaim failure)).Fits duties server attempt)
    (hanswer : server.answer now chance (jobCall duties session job (.committingClaim failure)) =
      (server', some (.ok ()))) :
    (server'.store.transaction session).changes.deleted = [] := by
  obtain ⟨⟨-, entry, -, hactive⟩, _, -, hperform⟩ := h.perform rfl hanswer
  rw [Store.idle_of_commit hactive hperform]
  rfl

/-- While an attempt goes on, its transaction deletes the same rows. -/
theorem JobStage.deleted_eq (stage : JobStage) (halone : duties.deduplicator = none)
    (h : (working session job stage).Fits duties server attempt)
    {answer? : Option (jobCall duties session job stage).Answer}
    (hanswer : server.answer now chance (jobCall duties session job stage) = (server', answer?))
    (hbefore : (working session job stage).tried? duties none = some job)
    (hafter : (working session job stage).tried? duties answer? = some job)
    (hnone : (working session job stage).happening? duties answer? = none) :
    (server'.store.transaction session).changes.deleted =
      (server.store.transaction session).changes.deleted := by
  cases stage with
  | saving | deduplicating | delivering => cases hbefore
  | committingSuccess | committingPutOff | committingPutBack | committingArchive =>
    obtain ⟨_ | _, rfl⟩ := exists_result hanswer
    · cases hafter
    · cases hafter
  | committingClaim =>
    obtain ⟨_ | _, rfl⟩ := exists_result hanswer
    · cases hafter
    · cases hnone
  | releasing =>
    obtain ⟨error | ⟨⟩, rfl⟩ := exists_result hanswer
    · cases hafter
    · exact h.deleted_of_release hanswer
  | undoing =>
    obtain ⟨error | ⟨⟩, rfl⟩ := exists_result hanswer
    · cases hafter
    · exact h.deleted_of_undo halone hanswer
  | puttingOff | puttingBack =>
    obtain ⟨error | rows, rfl⟩ := exists_result hanswer
    · cases hafter
    · obtain ⟨⟨-, entry, -, hactive⟩, _, -, hperform⟩ := h.perform rfl hanswer
      rw [Store.perform_of_active now hactive] at hperform
      have hstore : server.store.insert session _ now = server'.store :=
        congrArg Prod.fst hperform
      rw [← hstore, Store.transaction_insert hactive, hactive]
      rfl
  | beginningArchive =>
    obtain ⟨error | ⟨⟩, rfl⟩ := exists_result hanswer
    · cases hafter
    · obtain ⟨⟨-, hidle⟩, _, -, hperform⟩ := h.perform rfl hanswer
      rw [Store.perform_begin now hidle] at hperform
      rw [← (Prod.mk.inj hperform).1, Store.transaction_setTransaction_self, hidle]
      rfl
  | archiving =>
    obtain ⟨error | rows, rfl⟩ := exists_result hanswer
    · cases hafter
    · exact h.deleted_of_archive hanswer

/-- Without duplicates, the row of a job that is delivered is the only one that its transaction
deletes. -/
theorem JobStage.Suits.deleted_eq (halone : duties.deduplicator = none)
    (h : JobStage.delivering.Suits duties store attempt.merged session job) :
    ∃ entry, store.Holds duties [] job entry ∧
      (store.transaction session).changes.deleted = [entry.number] := by
  obtain ⟨entry, taken, noted, hholds, -, -, hrows, hstate⟩ := h
  have hmerged := hholds.renders.alone halone
  rw [hmerged, List.map_eq_nil_iff] at hrows
  refine ⟨entry, hmerged ▸ hholds, ?_⟩
  rcases hstate with hstate | hstate <;> rw [hstate, hrows] <;> rfl

/-- A statement that is answered and has not failed has a reply. -/
theorem exists_reply_of_smooth {statement : Statement}
    {answer? : Option (Call.execute session statement : Call α).Answer}
    (hanswer : server.answer now chance (.execute session statement) = (server', answer?))
    (hsmooth : (Call.execute session statement : Call α).isFailed answer? = false) :
    ∃ reply, answer? = some (.ok reply) := by
  obtain ⟨error | reply, rfl⟩ := exists_result hanswer
  · cases hsmooth
  · exact ⟨reply, rfl⟩

/-- What the answer at a stage of a claimed job means for the attempt. -/
theorem JobStage.tries (stage : JobStage) (halone : duties.deduplicator = none)
    (h : (working session job stage).Fits duties server attempt)
    (hlive : server.isLive session = true) (hdisposed : stage.Disposed duties job)
    {answer? : Option (jobCall duties session job stage).Answer}
    (hanswer : server.answer now chance (jobCall duties session job stage) = (server', answer?))
    (hsmooth : (jobCall duties session job stage).isFailed answer? = false) :
    Tries duties server.store (server.store.transaction session).changes.deleted
      ((working session job stage).happening? duties answer?)
      ((working session job stage).trial? duties server.store attempt none)
      ((working session job stage).trial? duties server'.store
        ((jobCall duties session job stage).attempt answer? attempt) answer?) := by
  obtain ⟨hheard, hsuits⟩ := h fun other hother ↦ Option.some.inj hother ▸ hlive
  have hdeleted := JobStage.deleted_eq stage halone h hanswer
  cases stage with
  | saving | deduplicating =>
    obtain ⟨reply, rfl⟩ := exists_reply_of_smooth hanswer hsmooth
    exact .quiet
  | delivering =>
    obtain ⟨rfl, rfl⟩ := Prod.mk.inj hanswer
    obtain ⟨entry, hholds, hdeleted⟩ := JobStage.Suits.deleted_eq halone hsuits
    exact .received hholds hdeleted
  | releasing =>
    obtain ⟨⟨⟩, rfl⟩ := exists_reply_of_smooth hanswer hsmooth
    obtain ⟨merged, reception?⟩ := attempt
    obtain rfl : reception? = some .accepted := hheard
    exact .unchanged (hdeleted rfl rfl rfl)
  | committingSuccess =>
    obtain ⟨⟨⟩, rfl⟩ := exists_reply_of_smooth hanswer hsmooth
    obtain ⟨merged, reception?⟩ := attempt
    obtain rfl : reception? = some .accepted := hheard
    exact .accepted
  | undoing | puttingOff | puttingBack | beginningArchive | archiving =>
    obtain ⟨reply, rfl⟩ := exists_reply_of_smooth hanswer hsmooth
    obtain ⟨reception, hattempt, hfailure⟩ := exists_reception hheard
    rw [hattempt]
    exact .unchanged (hdeleted rfl rfl rfl)
  | committingPutOff | committingPutBack =>
    obtain ⟨⟨⟩, rfl⟩ := exists_reply_of_smooth hanswer hsmooth
    obtain ⟨reception, hattempt, hfailure⟩ := exists_reception hheard
    rw [hattempt]
    exact .returned hfailure hdisposed
  | committingClaim =>
    obtain ⟨⟨⟩, rfl⟩ := exists_reply_of_smooth hanswer hsmooth
    obtain ⟨reception, hattempt, hfailure⟩ := exists_reception hheard
    rw [hattempt]
    exact .removed hfailure hdisposed (h.deleted_of_commit hanswer)
  | committingArchive =>
    obtain ⟨⟨⟩, rfl⟩ := exists_reply_of_smooth hanswer hsmooth
    obtain ⟨reception, hattempt, hfailure⟩ := exists_reception hheard
    obtain ⟨number, failedAt, hactive⟩ := hsuits
    rw [hattempt]
    refine .archived hfailure ?_
    rw [hactive]
    rfl

/-- What an answer means for the attempt of a worker. -/
theorem Fits.tries (h : point.Fits duties server attempt) (halone : duties.deduplicator = none)
    (hlive : ∀ session, point.session? = some session → server.isLive session = true)
    (hdisposed : point.Disposed duties) (now : Instant) (chance : Chance)
    (hsmooth : (point.call duties).isFailed (server.answer now chance (point.call duties)).2 = false)
    (hsession : ∀ other, point.session? = some other → other = session) :
    Tries duties server.store (server.store.transaction session).changes.deleted
      (point.happening? duties (server.answer now chance (point.call duties)).2)
      (point.trial? duties server.store attempt none)
      (point.trial? duties (server.answer now chance (point.call duties)).1.store
        ((point.call duties).attempt (server.answer now chance (point.call duties)).2 attempt)
        (server.answer now chance (point.call duties)).2) := by
  cases point with
  | working other job stage =>
    obtain rfl := hsession other rfl
    exact JobStage.tries stage halone h (hlive other rfl) hdisposed rfl hsmooth
  | idle | starting | atConnectGate | connecting | atFailureGate | asleep | polling | rollingBack
    | closing | crashed => exact .quiet

end Answered

/-! ## Attempts elsewhere -/

variable {store store' : Store} {attempt : Attempt}

/-- An attempt depends on the transaction of its worker only. -/
theorem trial?_congr {answer? : Option (point.call duties).Answer}
    (h : ∀ session, point.heldSession? duties answer? = some session →
      store'.transaction session = store.transaction session) :
    point.trial? duties store' attempt answer? = point.trial? duties store attempt answer? := by
  cases point with
  | working session job stage =>
    have hsame := h session rfl
    simp only [trial?, session?, Option.bind_eq_bind, Option.bind_some, hsame]
  | idle | starting | atConnectGate | connecting | atFailureGate | asleep | polling | rollingBack
    | closing | crashed => rfl

theorem trial?_of_none {answer? : Option (point.call duties).Answer}
    (h : point.tried? duties answer? = none) : point.trial? duties store attempt answer? = none := by
  rw [trial?, h]
  rfl

/-- A turn changes nothing about an attempt. -/
theorem Leads.trial? {answer : (point.call duties).Answer}
    (h : point.Leads duties bounds answer bounds' point') (server : Server) :
    point'.trial? duties (server.bury point').store attempt none =
      point.trial? duties server.store attempt (some answer) := by
  have htried := h.carries.tried
  obtain heq | ⟨_, _, rfl, -⟩ := server.bury_cases point'
  · rw [heq]
    cases hpoint : point.isWorking with
    | false =>
      have hnone : point.tried? duties (some answer) = none := tried?_of_isWorking hpoint _
      rw [trial?_of_none (htried.trans hnone), trial?_of_none hnone]
    | true =>
      cases point with
      | working session job stage =>
        rw [Point.trial?, htried, h.session?]
        rfl
      | idle | starting | atConnectGate | connecting | atFailureGate | asleep | polling | rollingBack
        | closing | crashed => cases hpoint
  · rw [trial?_of_none htried.symm]
    rfl

theorem trial?_of_pause (h : point.call duties = .pause)
    (answer? : Option (point.call duties).Answer) :
    point.trial? duties store attempt answer? = none := by
  apply trial?_of_none
  cases point with
  | idle | starting | atConnectGate | connecting | atFailureGate | asleep | rollingBack | closing
    | crashed | polling => rfl
  | working session job stage => cases stage <;> cases h

theorem heldSession?_of_tried? {answer? : Option (point.call duties).Answer}
    (h : point.tried? duties answer? = some job) :
    point.heldSession? duties answer? = point.session? := by
  cases point with
  | working => rfl
  | idle | starting | atConnectGate | connecting | atFailureGate | asleep | polling | rollingBack
    | closing | crashed => cases h

end Point

/-- The rows that the transaction of a job deletes are in the queue. -/
theorem JobStage.Suits.mem_queue {store : Store} {merged : List Row}
    {session : Nat} {job : Job α} {stage : JobStage} {number : Nat}
    (h : stage.Suits duties store merged session job)
    (hdeleted : number ∈ (store.transaction session).changes.deleted) :
    number ∈ store.queue.map Entry.number := by
  have htaken {entry : Entry} {taken : List Entry} (hholds : store.Holds duties merged job entry)
      (hsubset : taken ⊆ store.queue) (hmem : number ∈ entry.number :: taken.map Entry.number) :
      number ∈ store.queue.map Entry.number :=
    List.map_subset Entry.number (List.cons_subset.2 ⟨hholds.mem, hsubset⟩) hmem
  have halone {entry : Entry} (hholds : store.Holds duties merged job entry)
      (hmem : number ∈ [entry.number]) : number ∈ store.queue.map Entry.number :=
    htaken hholds (List.nil_subset _) hmem
  cases stage with
  | saving =>
    obtain ⟨-, entry, hholds, hactive⟩ := h
    rw [hactive] at hdeleted
    exact halone hholds hdeleted
  | deduplicating =>
    obtain ⟨-, -, entry, hholds, hactive⟩ := h
    rw [hactive] at hdeleted
    exact halone hholds hdeleted
  | delivering | releasing | undoing =>
    obtain ⟨entry, taken, noted, hholds, hsubset, -, -, hstate⟩ := h
    rcases hstate with hstate | hstate <;> rw [hstate] at hdeleted <;>
      exact htaken hholds hsubset hdeleted
  | committingSuccess =>
    obtain ⟨entry, taken, noted, hholds, hsubset, -, -, hactive⟩ := h
    rw [hactive] at hdeleted
    exact htaken hholds hsubset hdeleted
  | puttingOff | puttingBack | committingClaim =>
    obtain ⟨entry, hholds, hactive⟩ := h
    rw [hactive] at hdeleted
    exact halone hholds hdeleted
  | committingPutOff =>
    obtain ⟨entry, _, _, _, hholds, hactive⟩ := h
    rw [hactive] at hdeleted
    exact halone hholds hdeleted
  | committingPutBack =>
    obtain ⟨entry, _, _, hholds, hactive⟩ := h
    rw [hactive] at hdeleted
    exact halone hholds hdeleted
  | beginningArchive | archiving =>
    rw [h] at hdeleted
    cases hdeleted
  | committingArchive =>
    obtain ⟨_, _, hactive⟩ := h
    rw [hactive] at hdeleted
    cases hdeleted

/-- A member may go on somewhere with the same attempt. -/
theorem Member.exists_prospect (member : Member duties) (moment : Moment) (shared : Shared) :
    ∃ bounds point, member.Prospect bounds point ∧
      point.tried? duties none = member.worker.point.tried? duties member.answer? := by
  obtain ⟨worker, answer?, servedAt, attempt⟩ := member
  cases answer? with
  | none => exact ⟨worker.bounds, worker.point, ⟨rfl, rfl⟩, rfl⟩
  | some answer =>
    have hleads := worker.resume_leads duties moment shared answer
    exact ⟨_, _, hleads, hleads.carries.tried⟩

end TableQueue
