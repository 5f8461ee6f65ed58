import TableQueue.Proofs.World.Sound

/-!
# What happens to jobs

Of all the answers that workers get, a few decide what becomes of a job: the handler's reception,
the commits, and the failures of an archive. They are the happenings of a run. Every answer comes
with one of seven outcomes, which say what has happened, what has become of the committed tables
and whether the worker has a job that has left the queue and is not archived yet.
-/

namespace TableQueue

variable {α : Type} {duties : Duties α}

inductive Happening (α : Type) where
  | received (job : Job α) (reception : Reception)
  /-- The claim of an accepted job is committed. -/
  | accepted (job : Job α)
  /-- The claim is committed, and with it the job is put back or put off. -/
  | returned (job : Job α) (failure : JobFailure)
  /-- The claim is committed before the job is archived. -/
  | removed (job : Job α) (failure : JobFailure)
  | archived (job : Job α) (failure : JobFailure)
  /-- A removed job could not be archived. -/
  | lost (job : Job α) (error : DatabaseError)

namespace Point

def happening? (duties : Duties α) :
    (point : Point α) → Option (point.call duties).Answer → Option (Happening α)
  | working _ job .delivering, some reception => some (.received job reception)
  | working _ job .committingSuccess, some (.ok ()) => some (.accepted job)
  | working _ job (.committingPutOff failure), some (.ok ())
  | working _ job (.committingPutBack failure), some (.ok ()) => some (.returned job failure)
  | working _ job (.committingClaim failure), some (.ok ()) => some (.removed job failure)
  | working _ job (.committingArchive failure), some (.ok ()) => some (.archived job failure)
  | working _ job (.beginningArchive _), some (.error error)
  | working _ job (.archiving ..), some (.error error)
  | working _ job (.committingArchive _), some (.error error) => some (.lost job error)
  | _, _ => none

/-- The job that a worker has removed from the queue and not archived, if it is about to. -/
def departing? (duties : Duties α) :
    (point : Point α) → Option (point.call duties).Answer → Option (Job α)
  | working _ job (.committingClaim _), some (.ok ())
  | working _ job (.beginningArchive _), none | working _ job (.beginningArchive _), some (.ok ())
  | working _ job (.archiving ..), none | working _ job (.archiving ..), some (.ok _)
  | working _ job (.committingArchive _), none => some job
  | _, _ => none

end Point

/-- A commit takes the changes of a transaction over into the tables. -/
structure Store.Commits (session : Nat) (changes : Changes) (store store' : Store) : Prop where
  active : ∃ savepoint, store.transaction session = .active changes savepoint
  eq : store' = (store.apply changes).setTransaction session .idle

theorem Store.Commits.queue {session : Nat} {changes : Changes} {store store' : Store}
    (h : store.Commits session changes store') :
    store'.queue = (Store.placeAll Entry.number changes.inserted store.queue).filter
      fun entry ↦ !changes.deleted.contains entry.number := by
  rw [h.eq]
  rfl

theorem Store.Commits.archive {session : Nat} {changes : Changes} {store store' : Store}
    (h : store.Commits session changes store') :
    store'.archive = Store.placeAll Prod.fst changes.archived store.archive := by
  rw [h.eq]
  rfl

/-- What an answer may have decided, together with the change of the tables and the departing job
before and after. -/
inductive Outcome (duties : Duties α) (store store' : Store) (attempt : Attempt)
    (session : Nat) : Option (Happening α) → Option (Job α) → Option (Job α) → Prop where
  | none {job? : Option (Job α)} : store.SameTables store' →
      Outcome duties store store' attempt session none job? job?
  | received {job : Job α} {reception : Reception} : store' = store →
      Outcome duties store store' attempt session (some (.received job reception)) none none
  | accepted {job : Job α} {changes : Changes} {entry : Entry} {taken : List Entry} :
      attempt.reception? = some .accepted → store.Commits session changes store' →
      store.Holds duties attempt.merged job entry → taken ⊆ store.queue →
      (entry.number :: taken.map Entry.number).Nodup → taken.map Entry.row = attempt.merged →
      changes.deleted = entry.number :: taken.map Entry.number → changes.inserted = [] →
      changes.archived = [] →
      Outcome duties store store' attempt session (some (.accepted job)) none none
  | returned {job : Job α} {failure : JobFailure} {changes : Changes} {entry new : Entry}
      {dequeueAfter : Instant} :
      attempt.reception?.bind Reception.failure? = some failure →
      store.Commits session changes store' → store.Holds duties attempt.merged job entry →
      new.row = duties.savedRow job dequeueAfter → changes.deleted = [entry.number] →
      changes.inserted = [new] → changes.archived = [] →
      Outcome duties store store' attempt session (some (.returned job failure)) none none
  | removed {job : Job α} {failure : JobFailure} {changes : Changes} {entry : Entry} :
      attempt.reception?.bind Reception.failure? = some failure →
      store.Commits session changes store' → store.Holds duties attempt.merged job entry →
      changes.deleted = [entry.number] → changes.inserted = [] → changes.archived = [] →
      Outcome duties store store' attempt session (some (.removed job failure)) none (some job)
  | archived {job : Job α} {failure : JobFailure} {changes : Changes} {number : Nat}
      {failedAt : Instant} :
      store.Commits session changes store' → changes.deleted = [] → changes.inserted = [] →
      changes.archived = [(number, duties.archivedRow job failure failedAt)] →
      Outcome duties store store' attempt session (some (.archived job failure)) (some job) none
  | lost {job : Job α} {error : DatabaseError} : store.SameTables store' →
      Outcome duties store store' attempt session (some (.lost job error)) (some job) none

namespace Point

variable {server server' : Server} {point point' : Point α} {session : Nat} {attempt : Attempt}
  {job : Job α} {now : Instant} {chance : Chance}

/-- Only a commit changes the tables. -/
theorem sameTables_answer (server : Server) (now : Instant) (chance : Chance) {call : Call α}
    (h : ∀ session, call ≠ .execute session (.command .commit)) :
    server.store.SameTables (server.answer now chance call).1.store := by
  cases call with
  | pause | deliver => exact Store.SameTables.refl _
  | connect =>
    simp only [Server.answer]
    split <;> exact Store.SameTables.refl _
  | execute session statement =>
    exact Server.sameTables_exchange fun hcommit ↦ h session (hcommit ▸ rfl)
  | deallocate session =>
    simp only [Server.answer, Server.deallocate]
    split
    · split <;> exact Store.SameTables.refl _
    · exact Store.SameTables.refl _
  | close session =>
    simp only [Server.answer, Server.close]
    split
    · exact Store.sameTables_setTransaction _ _ _
    · exact Store.SameTables.refl _

/-- Every statement is answered. -/
theorem exists_result {statement : Statement}
    {answer? : Option (Call.execute session statement : Call α).Answer}
    (hanswer : server.answer now chance (.execute session statement) = (server', answer?)) :
    ∃ result, answer? = some result :=
  ⟨_, (Prod.mk.inj hanswer).2.symm⟩

theorem sameTables_of_error {statement : Statement} {error : DatabaseError}
    (h : server.answer now chance (.execute session statement : Call α) =
      (server', some (.error error))) : server.store.SameTables server'.store := by
  obtain ⟨hserver, hreply⟩ := Prod.mk.inj h
  exact hserver ▸ Server.exchange_of_error (Option.some.inj hreply)

/-- A commit that succeeds takes over the changes of the transaction. -/
theorem Fits.commits (h : point.Fits duties server attempt)
    (hsession : point.session? = some session)
    (hanswer : server.answer now chance (.execute session (.command .commit) : Call α) =
      (server', some (.ok ()))) :
    point.Suits duties server.store attempt ∧ ∀ changes savepoint,
      server.store.transaction session = .active changes savepoint →
        server.store.Commits session changes server'.store := by
  obtain ⟨hsuits, _, -, hperform⟩ := h.perform hsession hanswer
  refine ⟨hsuits, fun changes savepoint hactive ↦ ⟨⟨savepoint, hactive⟩, ?_⟩⟩
  rw [Store.perform_commit now hactive] at hperform
  exact (congrArg Prod.fst hperform).symm

/-- What the answer at a stage of a claimed job decides goes with the change of the tables. -/
theorem JobStage.outcome (stage : JobStage)
    (h : (working session job stage).Fits duties server attempt)
    {answer? : Option (jobCall duties session job stage).Answer}
    (hanswer : server.answer now chance (jobCall duties session job stage) = (server', answer?)) :
    Outcome duties server.store server'.store attempt session
      ((working session job stage).happening? duties answer?)
      ((working session job stage).departing? duties none)
      ((working session job stage).departing? duties answer?) := by
  have hsame (hcall : ∀ other, jobCall duties session job stage ≠
      .execute other (.command .commit)) : server.store.SameTables server'.store := by
    have hsame := sameTables_answer server now chance hcall
    rw [hanswer] at hsame
    exact hsame
  cases stage with
  | saving | deduplicating | releasing | undoing | puttingOff | puttingBack =>
    exact .none (hsame fun _ h ↦ nomatch h)
  | delivering =>
    obtain ⟨rfl, rfl⟩ := Prod.mk.inj hanswer
    exact .received rfl
  | committingSuccess =>
    obtain ⟨error | ⟨⟩, rfl⟩ := exists_result hanswer
    · exact .none (sameTables_of_error hanswer)
    · obtain ⟨⟨hheard, entry, taken, noted, hholds, hsubset, hnodup, hrows, hactive⟩, hcommits⟩ :=
        h.commits rfl hanswer
      exact .accepted hheard (hcommits _ _ hactive) hholds hsubset hnodup hrows rfl rfl rfl
  | committingPutOff failure =>
    obtain ⟨error | ⟨⟩, rfl⟩ := exists_result hanswer
    · exact .none (sameTables_of_error hanswer)
    · obtain ⟨⟨hheard, entry, number, since, dequeueAfter, hholds, hactive⟩, hcommits⟩ :=
        h.commits rfl hanswer
      exact .returned hheard (hcommits _ _ hactive) hholds rfl rfl rfl rfl
  | committingPutBack failure =>
    obtain ⟨error | ⟨⟩, rfl⟩ := exists_result hanswer
    · exact .none (sameTables_of_error hanswer)
    · obtain ⟨⟨hheard, entry, number, since, hholds, hactive⟩, hcommits⟩ :=
        h.commits rfl hanswer
      exact .returned hheard (hcommits _ _ hactive) hholds rfl rfl rfl rfl
  | committingClaim failure =>
    obtain ⟨error | ⟨⟩, rfl⟩ := exists_result hanswer
    · exact .none (sameTables_of_error hanswer)
    · obtain ⟨⟨hheard, entry, hholds, hactive⟩, hcommits⟩ := h.commits rfl hanswer
      exact .removed hheard (hcommits _ _ hactive) hholds rfl rfl rfl
  | beginningArchive failure =>
    obtain ⟨error | ⟨⟩, rfl⟩ := exists_result hanswer
    · exact .lost (hsame fun _ h ↦ nomatch h)
    · exact .none (hsame fun _ h ↦ nomatch h)
  | archiving failure begun =>
    obtain ⟨error | rows, rfl⟩ := exists_result hanswer
    · exact .lost (hsame fun _ h ↦ nomatch h)
    · exact .none (hsame fun _ h ↦ nomatch h)
  | committingArchive failure =>
    obtain ⟨error | ⟨⟩, rfl⟩ := exists_result hanswer
    · exact .lost (sameTables_of_error hanswer)
    · obtain ⟨⟨-, number, failedAt, hactive⟩, hcommits⟩ := h.commits rfl hanswer
      exact .archived (hcommits _ _ hactive) rfl rfl rfl

/-- What an answer decides goes with the change of the tables. -/
theorem Fits.outcome (h : point.Fits duties server attempt) (now : Instant) (chance : Chance)
    (hsession : ∀ other, point.session? = some other → other = session) :
    Outcome duties server.store (server.answer now chance (point.call duties)).1.store attempt session
      (point.happening? duties (server.answer now chance (point.call duties)).2)
      (point.departing? duties none)
      (point.departing? duties (server.answer now chance (point.call duties)).2) := by
  cases point with
  | idle | starting | atConnectGate | atFailureGate | asleep | crashed | connecting | rollingBack
    | closing => exact .none (sameTables_answer _ _ _ fun _ h ↦ nomatch h)
  | polling other cycle stage =>
    cases stage <;> exact .none (sameTables_answer _ _ _ fun _ h ↦ nomatch h)
  | working other job stage =>
    obtain rfl := hsession other rfl
    exact JobStage.outcome stage h rfl

/-! ## The departing job along the way -/

section Departing

variable {bounds bounds' : Bounds}

theorem IsUnconnected.departing? (h : point.IsUnconnected) : point.departing? duties none = none := by
  cases point <;> first | rfl | exact h.elim

theorem IsResting.departing? (h : point.IsResting session) :
    point.departing? duties none = none := by
  cases point <;> first | rfl | exact h.elim

theorem GivesUp.departing? (h : GivesUp session bounds bounds' point) :
    point.departing? duties none = none := by
  rw [h.2]
  rfl

theorem Fails.departing? (h : Fails session bounds bounds' point) :
    point.departing? duties none = none := by
  obtain ⟨-, _, rfl⟩ := h
  rfl

theorem Goes.departing? {stage : JobStage} (h : Goes session job bounds stage bounds' point) :
    point.departing? duties none = (working session job stage).departing? duties none := by
  rw [h.2]

theorem Searches.departing? {cycle : Cycle} {queues : List String}
    (h : Searches session cycle bounds queues bounds' point) :
    point.departing? duties none = none := by
  obtain ⟨-, h⟩ := h
  split at h
  · rw [h]
    rfl
  · split at h <;>
    · obtain ⟨_, rfl⟩ := h
      rfl

theorem Claims.departing? {cycle : Cycle} {queue : String} {rest : List String} {bound : Instant}
    (h : Claims session cycle bounds queue rest bound bounds' point) :
    point.departing? duties none = none := by
  obtain ⟨-, _, rfl⟩ := h
  rfl

theorem Finds.departing? {cycle : Cycle} {queue : String} {rest : List String} {bound : Instant}
    (h : Finds session cycle bounds queue rest bound bounds' point) :
    point.departing? duties none = none := by
  rcases h with h | ⟨-, rfl⟩
  · exact h.departing?
  · rfl

theorem Disposes.departing? {failure : JobFailure}
    (h : Disposes duties session job failure bounds bounds' point) :
    point.departing? duties none = none := by
  unfold Disposes at h
  split at h
  · obtain ⟨_, h⟩ := h
    exact h.departing?
  · obtain ⟨_, h⟩ := h
    exact h.departing?
  · exact h.departing?

theorem PollLeads.departing? {cycle : Cycle} {stage : PollStage}
    {answer : (@pollCall α session stage).Answer}
    (h : PollLeads duties bounds session cycle stage answer bounds' point) :
    point.departing? duties none = none := by
  cases stage with
  | beginning =>
    rcases answer with error | ⟨⟩
    · exact GivesUp.departing? h
    · exact Searches.departing? h
  | probing =>
    rcases answer with error | _ | oldest
    · exact GivesUp.departing? h
    · rw [h.2]
      rfl
    · exact Finds.departing? h
  | bounding =>
    rcases answer with error | recent
    · exact GivesUp.departing? h
    · exact Finds.departing? h
  | replanning =>
    rcases answer with error | ⟨⟩
    · exact GivesUp.departing? h
    · exact Claims.departing? h
  | claiming =>
    rcases answer with error | _ | row
    · exact GivesUp.departing? h
    · exact Searches.departing? h
    · rcases h with h | ⟨job, -, -, rfl⟩
      · exact h.departing?
      · rfl
  | abandoning =>
    rcases answer with error | ⟨⟩
    · exact GivesUp.departing? h
    · exact h.1.departing?

theorem JobLeads.departing? {stage : JobStage}
    {answer : (jobCall duties session job stage).Answer}
    (h : JobLeads duties bounds session job stage answer bounds' point) :
    point.departing? duties none =
      (working session job stage).departing? duties (some answer) := by
  cases stage with
  | saving =>
    rcases answer with error | ⟨⟩
    · exact Fails.departing? h
    · rcases h with h | ⟨-, _, h⟩ <;> exact Goes.departing? h
  | deduplicating =>
    rcases answer with error | rows
    · exact Fails.departing? h
    · rcases h with ⟨_, -, h⟩ | h | ⟨-, _, rfl⟩
      · exact Goes.departing? h
      · exact Fails.departing? h
      · rfl
  | delivering =>
    cases hfailure : answer.failure? <;>
    · simp only [JobLeads, hfailure] at h
      exact Goes.departing? h
  | releasing | committingClaim | puttingOff | puttingBack | archiving =>
    rcases answer with error | reply
    · exact Fails.departing? h
    · exact Goes.departing? h
  | undoing =>
    rcases answer with error | ⟨⟩
    · exact Fails.departing? h
    · exact Disposes.departing? h
  | beginningArchive =>
    rcases answer with error | ⟨⟩
    · exact Fails.departing? h
    · obtain ⟨_, h⟩ := h
      exact Goes.departing? h
  | committingSuccess | committingPutOff | committingPutBack | committingArchive =>
    rcases answer with error | ⟨⟩
    · exact Fails.departing? h
    · exact h.1.departing?

/-- A turn neither removes a job nor archives one; its answer has done so. -/
theorem Leads.departing? {answer : (point.call duties).Answer}
    (h : point.Leads duties bounds answer bounds' point') :
    point'.departing? duties none = point.departing? duties (some answer) := by
  cases point with
  | idle | crashed =>
    rw [h.2]
    rfl
  | starting | atConnectGate | closing => exact h.2.departing?
  | connecting =>
    rcases answer with error | session
    · exact h.2.departing?
    · exact h.2.departing?
  | atFailureGate | asleep => exact h.1.departing?
  | rollingBack => exact GivesUp.departing? h
  | polling => exact PollLeads.departing? h
  | working => exact JobLeads.departing? h

theorem departing?_of_pause (h : point.call duties = .pause)
    (answer? : Option (point.call duties).Answer) : point.departing? duties answer? = none := by
  cases point with
  | idle | starting | atConnectGate | connecting | atFailureGate | asleep | rollingBack | closing
    | crashed | polling => rfl
  | working session job stage => cases stage <;> cases h

end Departing

end Point

/-! ## Events -/

inductive Event (α : Type) where
  /-- A producer enqueues a row, which gets a number. -/
  | enqueued (number : Nat) (row : Row)
  /-- Something happens to a job of a worker, whose transaction has made some changes by then. -/
  | happened (worker : Nat) (changes : Changes) (attempt : Attempt) (happening : Happening α)

namespace World

def changesAt (world : World duties) (point : Point α) : Changes :=
  match point.session? with
  | some session => (world.server.store.transaction session).changes
  | none => .none

def event? (world : World duties) : Move → Option (Event α)
  | .produce row _ => some (.enqueued world.server.store.next row)
  | .answer number chance =>
    match world.members[number]? with
    | some ⟨worker, none, _, attempt⟩ =>
      (worker.point.happening? duties
        (world.server.answer world.now chance (worker.call duties)).2).map
          (.happened number (world.changesAt worker.point) attempt)
    | _ => none
  | _ => none

/-- The job that a worker has removed from the queue and not archived, if it is about to. -/
def departing? (world : World duties) (number : Nat) : Option (Job α) :=
  match world.members[number]? with
  | some member => member.worker.point.departing? duties member.answer?
  | none => none

/-- What a move does, as far as the tables and the departing jobs are concerned. -/
inductive Effect (world world' : World duties) : Option (Event α) → Prop where
  | none : world.server.store.SameTables world'.server.store →
      (∀ j, world'.departing? j = world.departing? j) → Effect world world' none
  | enqueued {row : Row} {visibleFrom : Instant} :
      world'.server.store = world.server.store.produce row visibleFrom →
      (∀ j, world'.departing? j = world.departing? j) →
      Effect world world' (some (.enqueued world.server.store.next row))
  | happened {worker session : Nat} {changes : Changes} {attempt : Attempt}
      {happening : Happening α} :
      (world.server.store.transaction session).changes = changes →
      Outcome duties world.server.store world'.server.store attempt session (some happening)
        (world.departing? worker) (world'.departing? worker) →
      (∀ j ≠ worker, world'.departing? j = world.departing? j) →
      Effect world world' (some (.happened worker changes attempt happening))

variable {world : World duties}

theorem departing?_initial (duties : Duties α) (workers : Nat) (shared : Shared) (now : Instant)
    (j : Nat) : (World.initial duties workers shared now).departing? j = none := by
  unfold departing?
  cases hmember : (World.initial duties workers shared now).members[j]? with
  | none => rfl
  | some member =>
    obtain ⟨number, -, rfl⟩ := List.mem_map.1 (List.mem_of_getElem? hmember)
    rfl

theorem departing?_set (world : World duties) {number : Nat} {member member' : Member duties}
    (hmember : world.members[number]? = some member) {server : Server} {shared : Shared} (j : Nat) :
    ({ world with server, shared, members := world.members.set number member' } :
        World duties).departing? j =
      if j = number then member'.worker.point.departing? duties member'.answer?
      else world.departing? j := by
  have hlt := (List.getElem?_eq_some_iff.1 hmember).1
  unfold departing?
  by_cases hj : j = number
  · simp [hj, List.getElem?_set_self hlt]
  · simp [hj, List.getElem?_set_ne (Ne.symm hj)]

/-- One member goes through an outcome. -/
theorem effect_of_outcome {number session : Nat} {member member' : Member duties} {server : Server}
    {attempt : Attempt} {happening? : Option (Happening α)} {before after : Option (Job α)}
    (hmember : world.members[number]? = some member) (shared : Shared) (changes : Changes)
    (hbefore : member.worker.point.departing? duties member.answer? = before)
    (hafter : member'.worker.point.departing? duties member'.answer? = after)
    (houtcome : Outcome duties world.server.store server.store attempt session happening? before
      after)
    (hchanges : happening?.isSome → (world.server.store.transaction session).changes = changes) :
    Effect world { world with server, shared, members := world.members.set number member' }
      (happening?.map (.happened number changes attempt)) := by
  have hold : world.departing? number = before := by
    simp only [departing?, hmember, hbefore]
  have hnew (j : Nat) : ({ world with server, shared, members := world.members.set number member' } :
      World duties).departing? j = if j = number then after else world.departing? j := by
    rw [departing?_set world hmember j, hafter]
  cases happening? with
  | none =>
    cases houtcome with
    | none htables =>
      apply Effect.none htables
      intro j
      rw [hnew]
      split
      · next hj => rw [hj, hold]
      · rfl
  | some happening =>
    refine .happened (hchanges rfl) ?_ fun j hj ↦ ?_
    · rw [hold, hnew, if_pos rfl]
      exact houtcome
    · rw [hnew, if_neg hj]

theorem changes_of_happening? {point : Point α} {answer? : Option (point.call duties).Answer}
    (h : (point.happening? duties answer?).isSome) :
    (world.server.store.transaction (point.session?.getD 0)).changes = world.changesAt point := by
  cases point with
  | working => rfl
  | idle | starting | atConnectGate | connecting | atFailureGate | asleep | polling | rollingBack
    | closing | crashed => cases h

/-- An answer has the effect of its event. -/
theorem Sound.effect_answer (h : world.Sound) {number : Nat} {worker : Worker α}
    {servedAt : Instant} {attempt : Attempt}
    (hmember : world.members[number]? = some ⟨worker, none, servedAt, attempt⟩) (chance : Chance) :
    Effect world (world.answer number chance) (world.event? (.answer number chance)) := by
  have hfits := h.fits _ (List.mem_of_getElem? hmember) _ _ ⟨rfl, rfl⟩
  have houtcome := @Point.Fits.outcome α duties world.server worker.point
    (worker.point.session?.getD 0) attempt hfits world.now chance
    fun other hother ↦ by rw [hother]; rfl
  have hevent : world.event? (.answer number chance) = (worker.point.happening? duties
      (world.server.answer world.now chance (worker.call duties)).2).map
        (.happened number (world.changesAt worker.point) attempt) := by
    simp only [event?, hmember]
  rw [answer_eq hmember, hevent]
  exact effect_of_outcome hmember world.shared _ rfl rfl houtcome fun hsome ↦
    changes_of_happening? hsome

theorem effect_resume {number : Nat} {member : Member duties}
    {answer : (member.worker.call duties).Answer} (hmember : world.members[number]? = some member)
    (hready : member.ready world.shared world.moment = some answer) :
    Effect world (world.resume number) none := by
  rw [resume_eq hmember hready]
  have hleads := member.worker.resume_leads duties world.moment world.shared answer
  have htables := Server.sameTables_bury world.server
    (member.worker.resume duties world.moment world.shared answer).worker.point
  have hafter : (member.worker.resume duties world.moment world.shared answer).worker.point.departing?
      duties none = member.worker.point.departing? duties member.answer? := by
    rw [hleads.departing?]
    rcases Member.ready_cases hready with hanswered | ⟨hnone, hpause⟩
    · rw [hanswered]
      rfl
    · calc member.worker.point.departing? duties (some answer) = none :=
            Point.departing?_of_pause hpause _
        _ = member.worker.point.departing? duties member.answer? :=
            (Point.departing?_of_pause hpause _).symm
  exact effect_of_outcome hmember _ .none rfl hafter
    (@Outcome.none α duties _ _ member.attempt 0 _ htables) fun hsome ↦ nomatch hsome

theorem Sound.effect_start (h : world.Sound) {tasks : List Nat}
    (htasks : (world.crew.start world.taskStatus duties.settings.queueNames).2.2 = .ok tasks) :
    Effect world world.start none := by
  rw [start_eq htasks]
  refine .none (Store.SameTables.refl _) fun j ↦ ?_
  unfold departing?
  simp only [getElem?_foldl_spawn]
  cases hmember : world.members[j]? with
  | none => rfl
  | some member =>
    by_cases hj : j ∈ tasks
    · have hidle := h.idle_of_start htasks hj hmember
      obtain ⟨⟨name, bounds, countdown, point⟩, answer?, servedAt, attempt⟩ := member
      subst hidle
      simp only [Option.map_some, if_pos hj]
      rfl
    · simp only [Option.map_some, if_neg hj]

theorem event?_of_isRefusable {move : Move} (h : move.isRefusable) : world.event? move = none := by
  cases move with
  | drop | write | resume | start | stop | await => rfl
  | pass | produce | answer | endAwait | release => cases h

theorem event?_of_unanswered {number : Nat} {chance : Chance}
    (h : ∀ worker servedAt attempt,
      world.members[number]? ≠ some ⟨worker, none, servedAt, attempt⟩) :
    world.event? (.answer number chance) = none := by
  cases hmember : world.members[number]? with
  | none => simp only [event?, hmember]
  | some member =>
    obtain ⟨worker, _ | reply, servedAt, attempt⟩ := member
    · exact absurd hmember (h worker servedAt attempt)
    · simp only [event?, hmember]

/-- Every move has the effect of its event. -/
theorem Sound.effect_of_steps (h : world.Sound) {move : Move} {world' : World duties}
    (hsteps : Steps world move world') : Effect world world' (world.event? move) := by
  have hquiet {now : Instant} {server : Server} {crew : Crew}
      {awaited : Option (Instant × List Nat)} (htables : world.server.store.SameTables server.store) :
      Effect world { world with now, server, crew, awaited } none :=
    .none htables fun _ ↦ rfl
  have hsame : Effect world world none := hquiet (Store.SameTables.refl _)
  cases hsteps with
  | refused hrefusable =>
    rw [event?_of_isRefusable hrefusable]
    exact hsame
  | unanswered hopen =>
    rw [event?_of_unanswered hopen]
    exact hsame
  | passed | stopped | awaited | waiting | reclaimed | forgotten | released =>
    exact hquiet (Store.SameTables.refl _)
  | produced => exact .enqueued rfl fun _ ↦ rfl
  | dropped => exact hquiet (Store.sameTables_setTransaction _ _ _)
  | answered chance hmember =>
    rw [← answer_eq hmember]
    exact h.effect_answer hmember chance
  | wrote => exact hquiet (Server.sameTables_exchange fun h ↦ by cases h)
  | resumed hmember hready hturn =>
    subst hturn
    rw [← resume_eq hmember hready]
    exact effect_resume hmember hready
  | started _ htasks =>
    rw [← start_eq htasks]
    exact h.effect_start htasks

/-- What every move does. -/
theorem Sound.effect (h : world.Sound) (move : Move) :
    Effect world (world.step move) (world.event? move) :=
  h.effect_of_steps (world.steps move)

end World

def Past.events (past : Past duties) : List (Event α) :=
  past.reverse.filterMap fun (world, move) ↦ world.event? move

theorem Past.events_cons (world : World duties) (move : Move) (past : Past duties) :
    Past.events ((world, move) :: past) = past.events ++ (world.event? move).toList := by
  cases hevent : world.event? move <;> simp [Past.events, hevent]

end TableQueue
