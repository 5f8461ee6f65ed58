import TableQueue.Proofs.World.Points

/-!
# Answers keep points fitting

Three things can happen to a point that fits the server: something is done on another connection, a
pause ends, or the call is answered. In each case the point that comes next fits the server that
there is then. For an answer this is checked stage by stage against the table of `Leads`.
-/

namespace TableQueue

variable {α : Type} {duties : Duties α} {server server' : Server} {store store' : Store}
  {bounds bounds' : Bounds} {point point' : Point α} {session : Nat} {merged : List Row}
  {attempt : Attempt} {job : Job α} {entry : Entry}

/-! ## What is done elsewhere -/

theorem Store.Holds.mono (h : store.Holds duties merged job entry)
    (hmem : entry ∈ store'.queue) : store'.Holds duties merged job entry :=
  ⟨hmem, h.renders⟩

theorem Store.Holds.of_sameTables (h : store.Holds duties merged job entry)
    (htables : store.SameTables store') : store'.Holds duties merged job entry :=
  h.mono (htables.queue ▸ h.mem)

theorem JobStage.Suits.spared {stage : JobStage}
    (htransaction : store'.transaction session = store.transaction session)
    (hqueue : ∀ entry ∈ store.queue, entry.number ∈ (store.transaction session).changes.deleted →
      entry ∈ store'.queue)
    (h : stage.Suits duties store merged session job) :
    stage.Suits duties store' merged session job := by
  have htaken (entries : List Entry) (hentries : entries ⊆ store.queue)
      (hdeleted : entries.map Entry.number ⊆ (store.transaction session).changes.deleted) :
      entries ⊆ store'.queue := fun entry hentry ↦
    hqueue entry (hentries hentry) (hdeleted (List.mem_map_of_mem hentry))
  cases stage with
  | saving =>
    obtain ⟨hmerged, entry, hholds, hactive⟩ := h
    refine ⟨hmerged, entry, hholds.mono (hqueue entry hholds.mem ?_), htransaction.trans hactive⟩
    simp [hactive, Transaction.changes, Changes.claim]
  | deduplicating =>
    obtain ⟨hmerged, hsome, entry, hholds, hactive⟩ := h
    refine ⟨hmerged, hsome, entry, hholds.mono (hqueue entry hholds.mem ?_),
      htransaction.trans hactive⟩
    simp [hactive, Transaction.changes, Changes.claim]
  | delivering | releasing | undoing =>
    obtain ⟨entry, taken, noted, hholds, hsubset, hnodup, hrows, hstate⟩ := h
    have hdeleted : (store.transaction session).changes.deleted =
        entry.number :: taken.map Entry.number := by
      rcases hstate with hstate | hstate <;> rw [hstate] <;> rfl
    refine ⟨entry, taken, noted, hholds.mono (hqueue entry hholds.mem ?_),
      htaken taken hsubset ?_, hnodup, hrows, by rw [htransaction]; exact hstate⟩
    · simp [hdeleted]
    · rw [hdeleted]
      exact List.subset_cons_self _ _
  | committingSuccess =>
    obtain ⟨entry, taken, noted, hholds, hsubset, hnodup, hrows, hactive⟩ := h
    have hdeleted : (store.transaction session).changes.deleted =
        entry.number :: taken.map Entry.number := by rw [hactive]; rfl
    refine ⟨entry, taken, noted, hholds.mono (hqueue entry hholds.mem ?_),
      htaken taken hsubset ?_, hnodup, hrows, htransaction.trans hactive⟩
    · simp [hdeleted]
    · rw [hdeleted]
      exact List.subset_cons_self _ _
  | puttingOff | puttingBack | committingClaim =>
    obtain ⟨entry, hholds, hactive⟩ := h
    refine ⟨entry, hholds.mono (hqueue entry hholds.mem ?_), htransaction.trans hactive⟩
    simp [hactive, Transaction.changes, Changes.claim]
  | committingPutOff =>
    obtain ⟨entry, number, since, dequeueAfter, hholds, hactive⟩ := h
    refine ⟨entry, number, since, dequeueAfter, hholds.mono (hqueue entry hholds.mem ?_),
      htransaction.trans hactive⟩
    simp [hactive, Transaction.changes]
  | committingPutBack =>
    obtain ⟨entry, number, since, hholds, hactive⟩ := h
    refine ⟨entry, number, since, hholds.mono (hqueue entry hholds.mem ?_),
      htransaction.trans hactive⟩
    simp [hactive, Transaction.changes]
  | beginningArchive | archiving => exact htransaction.trans h
  | committingArchive =>
    obtain ⟨number, failedAt, hactive⟩ := h
    exact ⟨number, failedAt, htransaction.trans hactive⟩

namespace Point

/-- A point still suits a store that spares its session. -/
theorem Fits.spared (h : point.Fits duties server attempt)
    (hspares : ∀ session, point.session? = some session → server.Spares session server') :
    point.Fits duties server' attempt := by
  intro hlive
  have hsuits := h fun session hsession ↦ (hspares session hsession (hlive session hsession)).1
  cases point with
  | idle | starting | atConnectGate | connecting | rollingBack | closing | crashed => trivial
  | atFailureGate session | asleep session =>
    obtain ⟨-, htransaction, -⟩ := hspares session rfl (hlive session rfl)
    exact htransaction.trans hsuits
  | polling session cycle stage =>
    obtain ⟨-, htransaction, -⟩ := hspares session rfl (hlive session rfl)
    cases stage <;> exact htransaction.trans hsuits
  | working session job stage =>
    obtain ⟨-, htransaction, hqueue⟩ := hspares session rfl (hlive session rfl)
    exact ⟨hsuits.1, hsuits.2.spared htransaction hqueue⟩

/-! ## Between transactions -/

theorem IsUnconnected.suits (h : point.IsUnconnected) : point.Suits duties store attempt := by
  cases point <;> trivial

theorem IsResting.suits (h : point.IsResting session)
    (hidle : store.transaction session = .idle) : point.Suits duties store attempt := by
  cases point with
  | closing => trivial
  | atFailureGate | asleep => exact Eq.trans (congrArg store.transaction h) hidle
  | polling other cycle stage =>
    cases stage <;> first
      | exact Eq.trans (congrArg store.transaction h) hidle
      | exact h.elim
  | idle | starting | atConnectGate | connecting | working | rollingBack | crashed => exact h.elim

theorem GivesUp.suits (h : GivesUp session bounds bounds' point) :
    point.Suits duties store attempt := by
  rw [h.2]
  trivial

theorem Fails.suits (h : Fails session bounds bounds' point) :
    point.Suits duties store attempt := by
  obtain ⟨-, _, rfl⟩ := h
  trivial

/-- A pause ends without the server knowing. -/
theorem Fits.paused (h : point.Fits duties server attempt) (hpause : point.call duties = .pause)
    {answer : (point.call duties).Answer} (hleads : point.Leads duties bounds answer bounds' point') :
    point'.Fits duties server attempt := by
  intro hlive
  have hsession := hleads.session?
  cases point with
  | idle | crashed =>
    rw [hleads.2]
    trivial
  | starting | atConnectGate => exact hleads.2.suits
  | atFailureGate session | asleep session =>
    refine hleads.1.suits (h fun other hother ↦ hlive other ?_)
    rw [hsession]
    exact hother
  | connecting | rollingBack | closing => cases hpause
  | polling session cycle stage => cases stage <;> cases hpause
  | working session job stage => cases stage <;> cases hpause

end Point

/-! ## Answers to a search -/

theorem Duties.Reads.renders {row : Row} (h : duties.Reads row job) :
    duties.Renders row [] job where
  details := h.1
  payload := by
    refine ⟨job.payload, h.2, ?_⟩
    unfold Duties.mergeRows
    split <;> rfl
  alone _ := rfl

/-- Merging further rows into a job that has none yet. -/
theorem Duties.Renders.merge {row : Row} {rows : List Row} {payload : α}
    (h : duties.Renders row [] job) (hsome : duties.deduplicator.isSome)
    (hpayload : duties.mergeRows job.payload rows = some payload) :
    duties.Renders row rows { job with payload } where
  details := h.details
  payload := by
    obtain ⟨first, hdecode, hfirst⟩ := h.payload
    have hsame : duties.mergeRows first [] = some first := by
      unfold mergeRows
      split <;> rfl
    rw [hsame] at hfirst
    exact ⟨first, hdecode, Option.some.inj hfirst ▸ hpayload⟩
  alone hnone := by simp [hnone] at hsome

namespace Point

theorem Searches.suits {cycle : Cycle} {queues : List String}
    (h : Searches session cycle bounds queues bounds' point)
    (hactive : store.transaction session = .active .none none) :
    point.Suits duties store attempt := by
  obtain ⟨-, h⟩ := h
  split at h
  · rw [h]
    exact hactive
  · split at h <;>
    · obtain ⟨_, rfl⟩ := h
      exact hactive

theorem Claims.suits {cycle : Cycle} {queue : String} {rest : List String} {bound : Instant}
    (h : Claims session cycle bounds queue rest bound bounds' point)
    (hactive : store.transaction session = .active .none none) :
    point.Suits duties store attempt := by
  obtain ⟨-, _, rfl⟩ := h
  exact hactive

theorem Finds.suits {cycle : Cycle} {queue : String} {rest : List String} {bound : Instant}
    (h : Finds session cycle bounds queue rest bound bounds' point)
    (hactive : store.transaction session = .active .none none) :
    point.Suits duties store attempt := by
  rcases h with h | ⟨-, rfl⟩
  · exact h.suits hactive
  · exact hactive

/-- A statement that succeeds has been carried out in the state that its point relies on. -/
theorem Fits.perform {now : Instant} {chance : Chance} {statement : Statement}
    {reply : statement.Reply} (h : point.Fits duties server attempt)
    (hsession : point.session? = some session)
    (hanswer : server.answer now chance (.execute session statement : Call α) =
      (server', some (.ok reply))) :
    point.Suits duties server.store attempt ∧
      ∃ reply', Server.Repeats statement reply reply' ∧
        server.store.perform session now statement = (server'.store, .ok reply') := by
  obtain ⟨hserver, hreply⟩ := Prod.mk.inj hanswer
  obtain ⟨hlive, -, hperform⟩ := Server.exchange_of_ok (Option.some.inj hreply)
  refine ⟨h fun other hother ↦ ?_, hserver ▸ hperform⟩
  rw [hsession] at hother
  exact Option.some.inj hother ▸ hlive

theorem Fits.deallocate {now : Instant} {chance : Chance} (h : point.Fits duties server attempt)
    (hsession : point.session? = some session)
    (hanswer : server.answer now chance (.deallocate session : Call α) =
      (server', some (.ok ()))) :
    point.Suits duties server'.store attempt := by
  have hstore : (server.deallocate session).1.store = server.store := by
    unfold Server.deallocate
    split <;> rfl
  cases hlive : server.isLive session with
  | false =>
    simp only [Server.answer, hlive, Bool.false_eq_true, if_false, Prod.mk.injEq] at hanswer
    cases Option.some.inj hanswer.2
  | true =>
    simp only [Server.answer, hlive, if_true, Prod.mk.injEq] at hanswer
    rw [← hanswer.1, hstore]
    apply h
    intro other hother
    rw [hsession] at hother
    exact Option.some.inj hother ▸ hlive

/-- A claim takes no row or holds the one that it takes. -/
theorem Fits.claimed {cycle : Cycle} {queue : String} {rest : List String}
    {notBefore begun now : Instant} {chance : Chance} {row : Option Row}
    (h : (polling session cycle (.claiming queue rest notBefore begun) : Point α).Fits duties server
      attempt)
    (hanswer : server.answer now chance
      (@pollCall α session (.claiming queue rest notBefore begun)) = (server', some (.ok row)))
    (hleads : PollLeads duties bounds session cycle (.claiming queue rest notBefore begun) (.ok row)
      bounds' point) :
    point.Suits duties server'.store
      ((pollCall session (.claiming queue rest notBefore begun) : Call α).attempt (some (.ok row))
        attempt) := by
  obtain ⟨hactive, row', hrow, hperform⟩ := h.perform rfl hanswer
  cases hrow
  rw [Store.perform_of_active now hactive] at hperform
  cases hclaimed : server.store.claimed session queue notBefore now with
  | none =>
    rw [Store.execute_claim_of_none hclaimed] at hperform
    have hstore : server.store = server'.store := congrArg Prod.fst hperform
    have hnone : none = row := Except.ok.inj (congrArg Prod.snd hperform)
    subst hnone
    exact Searches.suits hleads (hstore ▸ hactive)
  | some entry =>
    rw [Store.execute_claim_of_some hclaimed] at hperform
    have hstore : server.store.delete session [entry] = server'.store := congrArg Prod.fst hperform
    have hsome : some entry.row = row := Except.ok.inj (congrArg Prod.snd hperform)
    subst hsome
    rcases hleads with hleads | ⟨job, hreads, -, rfl⟩
    · exact hleads.suits
    · have hmem : entry ∈ server.store.queue := Store.mem_queue_of_takable
        (congrArg (fun transaction ↦ transaction.changes.inserted) hactive)
        (Store.mem_of_claimed hclaimed).1
      have hqueue := (Store.sameTables_delete server.store session [entry]).queue
      rw [← hstore]
      exact ⟨trivial, rfl, entry, ⟨hqueue ▸ hmem, hreads.renders⟩,
        Store.transaction_delete hactive _⟩

/-- A turn in a pass leads to a point that suits the store. -/
theorem PollLeads.suits {cycle : Cycle} {stage : PollStage} {now : Instant} {chance : Chance}
    {answer : (@pollCall α session stage).Answer}
    (hfits : (polling session cycle stage : Point α).Fits duties server attempt)
    (hanswer : server.answer now chance (pollCall session stage) = (server', some answer))
    (hleads : PollLeads duties bounds session cycle stage answer bounds' point) :
    point.Suits duties server'.store ((pollCall session stage).attempt (some answer) attempt) := by
  cases stage with
  | beginning =>
    rcases answer with error | ⟨⟩
    · exact GivesUp.suits hleads
    · obtain ⟨hidle, _, -, hperform⟩ := hfits.perform rfl hanswer
      rw [Store.perform_begin now hidle] at hperform
      have hstore : server.store.setTransaction session (.active .none none) = server'.store :=
        congrArg Prod.fst hperform
      refine Searches.suits hleads ?_
      rw [← hstore]
      exact Store.transaction_setTransaction_self _ _ _
  | probing queue rest begun =>
    rcases answer with error | oldest
    · exact GivesUp.suits hleads
    · obtain ⟨hactive, _, -, hperform⟩ := hfits.perform rfl hanswer
      rw [Store.perform_of_active now hactive] at hperform
      have hstore : server.store = server'.store := congrArg Prod.fst hperform
      cases oldest with
      | none =>
        rw [hleads.2, ← hstore]
        exact hactive
      | some oldest => exact Finds.suits hleads (hstore ▸ hactive)
  | bounding queue rest begun =>
    rcases answer with error | recent
    · exact GivesUp.suits hleads
    · obtain ⟨hactive, _, -, hperform⟩ := hfits.perform rfl hanswer
      rw [Store.perform_of_active now hactive] at hperform
      have hstore : server.store = server'.store := congrArg Prod.fst hperform
      exact Finds.suits hleads (hstore ▸ hactive)
  | replanning queue rest bound =>
    rcases answer with error | ⟨⟩
    · exact GivesUp.suits hleads
    · exact Claims.suits hleads (hfits.deallocate rfl hanswer)
  | claiming queue rest notBefore begun =>
    rcases answer with error | row
    · exact GivesUp.suits hleads
    · exact hfits.claimed hanswer hleads
  | abandoning =>
    rcases answer with error | ⟨⟩
    · exact GivesUp.suits hleads
    · obtain ⟨-, _, -, hperform⟩ := hfits.perform rfl hanswer
      rw [Store.perform_rollback] at hperform
      have hstore : server.store.setTransaction session .idle = server'.store :=
        congrArg Prod.fst hperform
      refine hleads.1.suits ?_
      rw [← hstore]
      exact Store.transaction_setTransaction_self _ _ _

/-! ## Answers to the work on a job -/

theorem Goes.suits {stage : JobStage} (h : Goes session job bounds stage bounds' point)
    (hheard : stage.Heard attempt)
    (hsuits : stage.Suits duties store attempt.merged session job) :
    point.Suits duties store attempt := by
  rw [h.2]
  exact ⟨hheard, hsuits⟩

/-- A failed job is put off, put back or archived in a transaction that still has its claim. -/
theorem Disposes.suits {failure : JobFailure}
    (h : Disposes duties session job failure bounds bounds' point)
    (hheard : attempt.reception?.bind Reception.failure? = some failure)
    (hholds : store.Holds duties attempt.merged job entry)
    (hactive : store.transaction session =
      .active (.claim entry.number) (some (.claim entry.number))) :
    point.Suits duties store attempt := by
  unfold Disposes at h
  split at h
  · obtain ⟨_, h⟩ := h
    exact h.suits hheard ⟨entry, hholds, hactive⟩
  · obtain ⟨_, h⟩ := h
    exact h.suits hheard ⟨entry, hholds, hactive⟩
  · exact h.suits hheard ⟨entry, hholds, hactive⟩

section Stages

variable {now : Instant} {chance : Chance} {failure : JobFailure} {begun : Instant}

/-- After the savepoint is set, the job is delivered or its duplicates are taken. -/
theorem Fits.saved {answer : Except DatabaseError Unit}
    (h : (working session job .saving).Fits duties server attempt)
    (hanswer : server.answer now chance (jobCall duties session job .saving) =
      (server', some answer))
    (hleads : JobLeads duties bounds session job .saving answer bounds' point) :
    point.Suits duties server'.store attempt := by
  rcases answer with error | ⟨⟩
  · exact Fails.suits hleads
  obtain ⟨⟨-, hnone, entry, hholds, hactive⟩, _, -, hperform⟩ := h.perform rfl hanswer
  rw [Store.perform_setSavepoint now hactive] at hperform
  have hstore : server.store.setTransaction session (.active (.claim entry.number)
      (some (.claim entry.number))) = server'.store := congrArg Prod.fst hperform
  rw [← hstore]
  have hsaved := Store.transaction_setTransaction_self server.store session
    (.active (.claim entry.number) (some (.claim entry.number)))
  rcases hleads with hleads | ⟨hsome, _, hleads⟩
  · exact hleads.suits trivial ⟨entry, [], [], hholds.mono hholds.mem, List.nil_subset _,
      by simp, hnone.symm, .inl hsaved⟩
  · exact hleads.suits trivial ⟨hnone, hsome, entry, hholds.mono hholds.mem, hsaved⟩

/-- The duplicates that were taken are on record and merged into the job. -/
theorem Fits.deduplicated {rows : List Row}
    (h : (working session job (.deduplicating begun)).Fits duties server attempt)
    (hserver : server.Sound)
    (hanswer : server.answer now chance (jobCall duties session job (.deduplicating begun)) =
      (server', some (.ok rows)))
    (hleads : JobLeads duties bounds session job (.deduplicating begun) (.ok rows) bounds' point) :
    point.Suits duties server'.store { attempt with merged := rows } := by
  obtain ⟨⟨-, hnone, hsome, entry, hholds, hactive⟩, rows', hrows, hperform⟩ := h.perform rfl hanswer
  cases hrows
  rw [Store.perform_of_active now hactive] at hperform
  rw [hnone] at hholds
  have hinserted : (server.store.transaction session).changes.inserted = [] :=
    congrArg (fun transaction ↦ transaction.changes.inserted) hactive
  obtain ⟨taken, htaken⟩ : ∃ taken, taken = server.store.duplicates session job.details.queue
      (duplicateKey duties job) duties.settings.includePostponedDuplicates now := ⟨_, rfl⟩
  have hstore : server.store.delete session taken = server'.store := by
    rw [htaken]
    exact congrArg Prod.fst hperform
  have hrows : taken.map Entry.row = rows := by
    rw [htaken]
    exact Except.ok.inj (congrArg Prod.snd hperform)
  have hsubset : taken ⊆ server.store.queue := by
    intro other hother
    rw [htaken] at hother
    exact Store.mem_queue_of_takable hinserted (Store.takable_of_mem_duplicates hother).1
  have hnodup : (entry.number :: taken.map Entry.number).Nodup := by
    rw [htaken]
    exact hserver.store.nodup_duplicates hinserted (hactive ▸ List.mem_singleton.2 rfl)
  have hqueue := (Store.sameTables_delete server.store session taken).queue
  have hdeleted := Store.transaction_delete hactive taken
  rw [hstore] at hqueue hdeleted
  rcases hleads with ⟨payload, hpayload, hleads⟩ | hleads | ⟨-, _, rfl⟩
  · exact hleads.suits trivial ⟨entry, taken, [], ⟨hqueue ▸ hholds.mem,
      hholds.renders.merge hsome hpayload⟩, hqueue ▸ hsubset, hnodup, hrows, .inl hdeleted⟩
  · exact hleads.suits
  · trivial

/-- How a handler receives a job is on record. -/
theorem Fits.delivered {reception : Reception}
    (h : (working session job .delivering).Fits duties server attempt)
    (hanswer : server.answer now chance (jobCall duties session job .delivering) =
      (server', some reception))
    (hleads : JobLeads duties bounds session job .delivering reception bounds' point)
    (hlive : server'.isLive session = true) :
    point.Suits duties server'.store { attempt with reception? := some reception } := by
  obtain ⟨rfl, -⟩ := Prod.mk.inj hanswer
  obtain ⟨-, hsuits⟩ := h fun other hother ↦ Option.some.inj hother ▸ hlive
  cases hfailure : reception.failure? with
  | none =>
    have haccepted : reception = .accepted := by
      rcases reception with _ | failure | _ | text
      · rfl
      all_goals cases hfailure
    simp only [JobLeads, hfailure] at hleads
    exact Goes.suits hleads (congrArg some haccepted) hsuits
  | some failure =>
    simp only [JobLeads, hfailure] at hleads
    exact Goes.suits hleads hfailure hsuits

/-- The savepoint is released, unless the handler has spoilt the transaction. -/
theorem Fits.released {answer : Except DatabaseError Unit}
    (h : (working session job .releasing).Fits duties server attempt)
    (hanswer : server.answer now chance (jobCall duties session job .releasing) =
      (server', some answer))
    (hleads : JobLeads duties bounds session job .releasing answer bounds' point) :
    point.Suits duties server'.store attempt := by
  rcases answer with error | ⟨⟩
  · exact Fails.suits hleads
  obtain ⟨⟨hheard, entry, taken, noted, hholds, hsubset, hnodup, hrows, hactive | hfailed⟩,
    _, -, hperform⟩ := h.perform rfl hanswer
  · rw [Store.perform_releaseSavepoint now hactive] at hperform
    have hstore : server.store.setTransaction session (.active _ none) = server'.store :=
      congrArg Prod.fst hperform
    rw [← hstore]
    exact Goes.suits hleads hheard ⟨entry, taken, noted, hholds.mono hholds.mem, hsubset,
      hnodup, hrows, Store.transaction_setTransaction_self _ _ _⟩
  · rw [Store.perform_of_failed now hfailed rfl] at hperform
    cases congrArg Prod.snd hperform

/-- What was done since the savepoint is undone, whether or not it has failed. -/
theorem Fits.undone {answer : Except DatabaseError Unit}
    (h : (working session job (.undoing failure)).Fits duties server attempt)
    (hanswer : server.answer now chance (jobCall duties session job (.undoing failure)) =
      (server', some answer))
    (hleads : JobLeads duties bounds session job (.undoing failure) answer bounds' point) :
    point.Suits duties server'.store attempt := by
  rcases answer with error | ⟨⟩
  · exact Fails.suits hleads
  obtain ⟨⟨hheard, entry, taken, noted, hholds, -, -, -, hstate⟩, _, -, hperform⟩ :=
    h.perform rfl hanswer
  rw [Store.perform_rollbackToSavepoint now hstate] at hperform
  have hstore : server.store.setTransaction session (.active (.claim entry.number)
      (some (.claim entry.number))) = server'.store := congrArg Prod.fst hperform
  rw [← hstore]
  exact Disposes.suits hleads hheard (hholds.mono hholds.mem)
    (Store.transaction_setTransaction_self _ _ _)

theorem Fits.putOff {delayMillis : Nat} {answer : Except DatabaseError Nat}
    (h : (working session job (.puttingOff failure delayMillis begun)).Fits duties server attempt)
    (hanswer : server.answer now chance
      (jobCall duties session job (.puttingOff failure delayMillis begun)) = (server', some answer))
    (hleads : JobLeads duties bounds session job (.puttingOff failure delayMillis begun) answer
      bounds' point) : point.Suits duties server'.store attempt := by
  rcases answer with error | rows
  · exact Fails.suits hleads
  obtain ⟨⟨hheard, entry, hholds, hactive⟩, _, -, hperform⟩ := h.perform rfl hanswer
  rw [Store.perform_of_active now hactive] at hperform
  have hstore : server.store.insert session _ now = server'.store := congrArg Prod.fst hperform
  rw [← hstore]
  exact Goes.suits hleads hheard ⟨entry, _, _, _,
    hholds.of_sameTables (Store.sameTables_insert _ _ _ _), Store.transaction_insert hactive _ _⟩

theorem Fits.putBack {answer : Except DatabaseError Nat}
    (h : (working session job (.puttingBack failure begun)).Fits duties server attempt)
    (hanswer : server.answer now chance (jobCall duties session job (.puttingBack failure begun)) =
      (server', some answer))
    (hleads : JobLeads duties bounds session job (.puttingBack failure begun) answer bounds' point) :
    point.Suits duties server'.store attempt := by
  rcases answer with error | rows
  · exact Fails.suits hleads
  obtain ⟨⟨hheard, entry, hholds, hactive⟩, _, -, hperform⟩ := h.perform rfl hanswer
  rw [Store.perform_of_active now hactive] at hperform
  have hstore : server.store.insert session _ now = server'.store := congrArg Prod.fst hperform
  rw [← hstore]
  exact Goes.suits hleads hheard ⟨entry, _, _,
    hholds.of_sameTables (Store.sameTables_insert _ _ _ _), Store.transaction_insert hactive _ _⟩

theorem Fits.archiveBegun {answer : Except DatabaseError Unit}
    (h : (working session job (.beginningArchive failure)).Fits duties server attempt)
    (hanswer : server.answer now chance (jobCall duties session job (.beginningArchive failure)) =
      (server', some answer))
    (hleads : JobLeads duties bounds session job (.beginningArchive failure) answer bounds' point) :
    point.Suits duties server'.store attempt := by
  rcases answer with error | ⟨⟩
  · exact Fails.suits hleads
  obtain ⟨⟨hheard, hidle⟩, _, -, hperform⟩ := h.perform rfl hanswer
  rw [Store.perform_begin now hidle] at hperform
  have hstore : server.store.setTransaction session (.active .none none) = server'.store :=
    congrArg Prod.fst hperform
  obtain ⟨_, hleads⟩ := hleads
  rw [← hstore]
  exact Goes.suits hleads hheard (Store.transaction_setTransaction_self _ _ _)

theorem Fits.archived {answer : Except DatabaseError Nat}
    (h : (working session job (.archiving failure begun)).Fits duties server attempt)
    (hanswer : server.answer now chance (jobCall duties session job (.archiving failure begun)) =
      (server', some answer))
    (hleads : JobLeads duties bounds session job (.archiving failure begun) answer bounds' point) :
    point.Suits duties server'.store attempt := by
  rcases answer with error | rows
  · exact Fails.suits hleads
  obtain ⟨⟨hheard, hactive⟩, _, -, hperform⟩ := h.perform rfl hanswer
  rw [Store.perform_of_active now hactive] at hperform
  have hstore : (server.store.execute session now (.archive job.details.queue
      job.details.queued.instant failure.diagnosis (duties.codec.encode job.payload))).1 =
      server'.store := congrArg Prod.fst hperform
  rw [← hstore]
  exact Goes.suits hleads hheard ⟨_, _, Store.transaction_archive hactive _ _ _ _ _⟩

/-- A commit ends the transaction that its stage relies on. -/
theorem Fits.idle_of_commit {stage : JobStage}
    (h : (working session job stage).Fits duties server attempt)
    (hactive : stage.Suits duties server.store attempt.merged session job →
      ∃ changes savepoint, server.store.transaction session = .active changes savepoint)
    (hanswer : server.answer now chance (.execute session (.command .commit) : Call α) =
      (server', some (.ok ()))) : server'.store.transaction session = .idle := by
  obtain ⟨⟨-, hsuits⟩, _, -, hperform⟩ := h.perform rfl hanswer
  obtain ⟨changes, savepoint, hactive⟩ := hactive hsuits
  exact Store.idle_of_commit hactive hperform

/-- A turn at a claimed job leads to a point that suits the store. -/
theorem JobLeads.suits {stage : JobStage} {answer : (jobCall duties session job stage).Answer}
    (hfits : (working session job stage).Fits duties server attempt) (hserver : server.Sound)
    (hanswer : server.answer now chance (jobCall duties session job stage) =
      (server', some answer))
    (hleads : JobLeads duties bounds session job stage answer bounds' point)
    (hlive : server'.isLive session = true) :
    point.Suits duties server'.store
      ((jobCall duties session job stage).attempt (some answer) attempt) := by
  cases stage with
  | saving => exact hfits.saved hanswer hleads
  | deduplicating begun =>
    rcases answer with error | rows
    · exact Fails.suits hleads
    · exact hfits.deduplicated hserver hanswer hleads
  | delivering => exact hfits.delivered hanswer hleads hlive
  | releasing => exact hfits.released hanswer hleads
  | undoing failure => exact hfits.undone hanswer hleads
  | puttingOff failure delayMillis begun => exact hfits.putOff hanswer hleads
  | puttingBack failure begun => exact hfits.putBack hanswer hleads
  | beginningArchive failure => exact hfits.archiveBegun hanswer hleads
  | archiving failure begun => exact hfits.archived hanswer hleads
  | committingSuccess =>
    rcases answer with error | ⟨⟩
    · exact Fails.suits hleads
    · exact hleads.1.suits (hfits.idle_of_commit
        (fun ⟨_, _, _, _, _, _, _, hactive⟩ ↦ ⟨_, _, hactive⟩) hanswer)
  | committingPutOff failure =>
    rcases answer with error | ⟨⟩
    · exact Fails.suits hleads
    · exact hleads.1.suits (hfits.idle_of_commit
        (fun ⟨_, _, _, _, _, hactive⟩ ↦ ⟨_, _, hactive⟩) hanswer)
  | committingPutBack failure =>
    rcases answer with error | ⟨⟩
    · exact Fails.suits hleads
    · exact hleads.1.suits (hfits.idle_of_commit
        (fun ⟨_, _, _, _, hactive⟩ ↦ ⟨_, _, hactive⟩) hanswer)
  | committingClaim failure =>
    rcases answer with error | ⟨⟩
    · exact Fails.suits hleads
    · obtain ⟨⟨hheard, -⟩, -⟩ := hfits.perform rfl hanswer
      exact Goes.suits hleads hheard (hfits.idle_of_commit
        (fun ⟨_, _, hactive⟩ ↦ ⟨_, _, hactive⟩) hanswer)
  | committingArchive failure =>
    rcases answer with error | ⟨⟩
    · exact Fails.suits hleads
    · exact hleads.1.suits (hfits.idle_of_commit
        (fun ⟨_, _, hactive⟩ ↦ ⟨_, _, hactive⟩) hanswer)

end Stages

/-- A handler that writes leaves what its worker relies on as it is. -/
theorem Fits.noted {now : Instant} {mishap : Option Mishap} {text : String}
    (h : (working session job .delivering).Fits duties server attempt) :
    (working session job .delivering).Fits duties
      (server.exchange session now mishap (.note text)).1 attempt := by
  intro hlive'
  have hlive : server.isLive session = true := Server.confined_exchange.isLive (hlive' session rfl)
  obtain ⟨-, entry, taken, noted, hholds, hsubset, hnodup, hrows, hstate⟩ :=
    h fun other hother ↦ Option.some.inj hother ▸ hlive
  obtain ⟨htables, noted', hstate'⟩ :=
    Server.exchange_note hstate (hlive' session rfl)
  exact ⟨trivial, entry, taken, noted', hholds.of_sameTables htables, htables.queue ▸ hsubset,
    hnodup, hrows, hstate'⟩

/-- Wherever an answer leads, the point fits the server that has given the answer. -/
theorem Fits.answered {now : Instant} {chance : Chance} {answer : (point.call duties).Answer}
    (h : point.Fits duties server attempt) (hserver : server.Sound)
    (hanswer : server.answer now chance (point.call duties) = (server', some answer))
    (hleads : point.Leads duties bounds answer bounds' point') :
    point'.Fits duties server' ((point.call duties).attempt (some answer) attempt) := by
  intro hlive
  cases point with
  | idle | starting | atConnectGate | atFailureGate | asleep | crashed => cases hanswer
  | connecting begun =>
    rcases answer with error | session
    · exact hleads.2.suits
    · obtain ⟨rfl, rfl⟩ := Prod.mk.inj (Server.connect_of_answer hanswer)
      exact hleads.2.suits (hserver.quiet _ hserver.isLive_next)
  | polling session cycle stage => exact PollLeads.suits h hanswer hleads
  | working session job stage =>
    exact JobLeads.suits h hserver hanswer hleads (hlive session (JobLeads.session? hleads))
  | rollingBack session fault => exact GivesUp.suits hleads
  | closing session last => exact IsUnconnected.suits hleads.2

end Point

end TableQueue
