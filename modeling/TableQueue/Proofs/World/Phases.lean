import TableQueue.Proofs.World.Sound

/-!
# The protocol of a connection

What is sent on a connection can be followed without a look at the server: a transaction is begun,
gets a savepoint, loses it and ends. A statement is in order in some of these phases only. At each of
its points a worker expects its connection to be in one phase, and whatever the answer, the statement
that it waits for is in order and leads to the phase that the next point expects. On a connection that
is live, the phase agrees with the transaction of the server.
-/

namespace TableQueue

variable {α : Type} {duties : Duties α}

/-- How far a connection has come, judging by what was sent on it and what succeeded. -/
inductive Phase where
  /-- No transaction is open. -/
  | closed
  /-- A transaction without a savepoint is open. -/
  | opened
  /-- A transaction with a savepoint is open. -/
  | saved
  /-- A statement of the worker has failed. -/
  | broken
  /-- A transaction that cannot be gone on with was rolled back. -/
  | undone
deriving DecidableEq, Repr

namespace Phase

/-- The phase after a statement that succeeds, if the statement is in order. -/
def afterSuccess : Phase → Statement → Option Phase
  | closed, .command .begin => some opened
  | opened, .oldest _ | opened, .recent | opened, .claim .. | opened, .archive .. => some opened
  | opened, .command .setSavepoint => some saved
  | opened, .command .commit | opened, .command .rollback | saved, .command .commit => some closed
  | saved, .takeDuplicates .. | saved, .putBack .. | saved, .putOff .. | saved, .note _
  | saved, .command .rollbackToSavepoint => some saved
  | saved, .command .releaseSavepoint => some opened
  | saved, .command .rollback | broken, .command .rollback => some undone
  | _, _ => none

/-- The phase after a statement that fails. The handler's own statements do not count; after a
rollback nothing more is in order, and after any other statement only a rollback is. -/
def afterError (phase : Phase) : Statement → Phase
  | .note _ => phase
  | .command .rollback => undone
  | _ => broken

/-- The phase after a statement, if the statement is in order. -/
def advance (phase : Phase) (statement : Statement) (succeeded : Bool) : Option Phase :=
  (phase.afterSuccess statement).map fun next ↦
    if succeeded then next else phase.afterError statement

/-- The phase once a call is answered. -/
def hear (phase : Phase) : (call : Call α) → call.Answer → Option Phase
  | .execute _ statement, answer => phase.advance statement answer.isOk
  | _, _ => some phase

theorem hear_of_pause {call : Call α} (h : call = .pause) (phase : Phase) (answer : call.Answer) :
    phase.hear call answer = some phase := by
  subst h
  rfl

/-- What a phase says about the transaction of a session. -/
def Matches : Phase → Transaction → Prop
  | closed, transaction => transaction = .idle
  | opened, transaction => ∃ changes, transaction = .active changes none
  | saved, transaction => ∃ changes earlier, transaction = .active changes (some earlier) ∨
    transaction = .failed changes (some earlier)
  | broken, _ | undone, _ => True

end Phase

/-- Whether a statement may be sent in a transaction. One that begins a transaction needs that none
is open, one that uses a savepoint needs the savepoint, and any other needs an open transaction. -/
def Statement.Befits (transaction : Transaction) : Statement → Prop
  | .command .begin => transaction = .idle
  | .command .releaseSavepoint | .command .rollbackToSavepoint => transaction.savepoint?.isSome
  | _ => transaction ≠ .idle

/-! ## Points expect phases -/

/-- The phase in which a stage of a pass sends its statement. -/
def PollStage.phase : PollStage → Phase
  | .beginning => .closed
  | .probing .. | .bounding .. | .replanning .. | .claiming .. | .abandoning => .opened

/-- The phase in which a stage of a claimed job sends its statement. -/
def JobStage.phase : JobStage → Phase
  | .beginningArchive _ => .closed
  | .saving | .committingSuccess | .archiving .. | .committingArchive _ => .opened
  | .deduplicating _ | .delivering | .releasing | .undoing _ | .puttingOff .. | .committingPutOff _
  | .puttingBack .. | .committingPutBack _ | .committingClaim _ => .saved

namespace Point

/-- What a worker at a point expects of its connection. -/
def Awaits (phase : Phase) : Point α → Prop
  | atFailureGate .. | asleep .. => phase = .closed
  | polling _ _ stage => phase = stage.phase
  | working _ _ stage => phase = stage.phase
  | rollingBack .. => phase = .broken ∨ phase = .saved
  | idle | starting | atConnectGate _ | connecting _ | closing .. | crashed .. => True

variable {bounds bounds' : Bounds} {point point' : Point α} {session : Nat} {job : Job α}

theorem IsUnconnected.awaits (h : point.IsUnconnected) (phase : Phase) : point.Awaits phase := by
  cases point <;> trivial

theorem IsResting.awaits (h : point.IsResting session) : point.Awaits .closed := by
  cases point with
  | polling other cycle stage =>
    cases stage <;> first | rfl | exact h.elim
  | closing => trivial
  | atFailureGate | asleep => rfl
  | idle | starting | atConnectGate | connecting | working | rollingBack | crashed => exact h.elim

theorem Searches.awaits {cycle : Cycle} {queues : List String}
    (h : Searches session cycle bounds queues bounds' point) : point.Awaits .opened := by
  obtain ⟨-, h⟩ := h
  split at h
  · rw [h]
    rfl
  · split at h <;>
    · obtain ⟨_, rfl⟩ := h
      rfl

theorem Claims.awaits {cycle : Cycle} {queue : String} {rest : List String} {bound : Instant}
    (h : Claims session cycle bounds queue rest bound bounds' point) : point.Awaits .opened := by
  obtain ⟨-, _, rfl⟩ := h
  rfl

theorem Finds.awaits {cycle : Cycle} {queue : String} {rest : List String} {bound : Instant}
    (h : Finds session cycle bounds queue rest bound bounds' point) : point.Awaits .opened := by
  rcases h with h | ⟨-, rfl⟩
  · exact h.awaits
  · rfl

theorem GivesUp.awaits (h : GivesUp session bounds bounds' point) (phase : Phase) :
    point.Awaits phase := by
  rw [h.2]
  trivial

theorem Goes.awaits {stage : JobStage} (h : Goes session job bounds stage bounds' point) :
    point.Awaits stage.phase := by
  rw [h.2]
  rfl

theorem Fails.awaits (h : Fails session bounds bounds' point) : point.Awaits .broken := by
  obtain ⟨-, _, rfl⟩ := h
  exact .inl rfl

theorem Disposes.awaits {failure : JobFailure}
    (h : Disposes duties session job failure bounds bounds' point) : point.Awaits .saved := by
  unfold Disposes at h
  split at h
  · obtain ⟨_, h⟩ := h
    exact h.awaits
  · obtain ⟨_, h⟩ := h
    exact h.awaits
  · exact h.awaits

/-- Whatever the answer in a pass, the phase after it is the one that the worker expects. -/
theorem PollLeads.awaits {cycle : Cycle} {stage : PollStage}
    (answer : (@pollCall α session stage).Answer) :
    ∃ next, stage.phase.hear (pollCall session stage) answer = some next ∧
      ∀ bounds bounds' point, PollLeads duties bounds session cycle stage answer bounds' point →
        point.Awaits next := by
  cases stage with
  | beginning =>
    rcases answer with error | ⟨⟩
    · exact ⟨.broken, rfl, fun _ _ _ h ↦ GivesUp.awaits h _⟩
    · exact ⟨.opened, rfl, fun _ _ _ h ↦ Searches.awaits h⟩
  | probing =>
    rcases answer with error | _ | oldest
    · exact ⟨.broken, rfl, fun _ _ _ h ↦ GivesUp.awaits h _⟩
    · refine ⟨.opened, rfl, fun _ _ _ h ↦ ?_⟩
      rw [h.2]
      rfl
    · exact ⟨.opened, rfl, fun _ _ _ h ↦ Finds.awaits h⟩
  | bounding =>
    rcases answer with error | recent
    · exact ⟨.broken, rfl, fun _ _ _ h ↦ GivesUp.awaits h _⟩
    · exact ⟨.opened, rfl, fun _ _ _ h ↦ Finds.awaits h⟩
  | replanning =>
    rcases answer with error | ⟨⟩
    · exact ⟨.opened, rfl, fun _ _ _ h ↦ GivesUp.awaits h _⟩
    · exact ⟨.opened, rfl, fun _ _ _ h ↦ Claims.awaits h⟩
  | claiming =>
    rcases answer with error | _ | row
    · exact ⟨.broken, rfl, fun _ _ _ h ↦ GivesUp.awaits h _⟩
    · exact ⟨.opened, rfl, fun _ _ _ h ↦ Searches.awaits h⟩
    · refine ⟨.opened, rfl, fun _ _ _ h ↦ ?_⟩
      rcases h with h | ⟨job, -, -, rfl⟩
      · exact h.awaits _
      · rfl
  | abandoning =>
    rcases answer with error | ⟨⟩
    · exact ⟨.undone, rfl, fun _ _ _ h ↦ GivesUp.awaits h _⟩
    · exact ⟨.closed, rfl, fun _ _ _ h ↦ h.1.awaits⟩

/-- Whatever the answer at a claimed job, the phase after it is the one that the worker expects. -/
theorem JobLeads.awaits {stage : JobStage} (answer : (jobCall duties session job stage).Answer) :
    ∃ next, stage.phase.hear (jobCall duties session job stage) answer = some next ∧
      ∀ bounds bounds' point, JobLeads duties bounds session job stage answer bounds' point →
        point.Awaits next := by
  cases stage with
  | saving =>
    rcases answer with error | ⟨⟩
    · exact ⟨.broken, rfl, fun _ _ _ h ↦ Fails.awaits h⟩
    · refine ⟨.saved, rfl, fun _ _ _ h ↦ ?_⟩
      rcases h with h | ⟨-, _, h⟩ <;> exact h.awaits
  | deduplicating =>
    rcases answer with error | rows
    · exact ⟨.broken, rfl, fun _ _ _ h ↦ Fails.awaits h⟩
    · refine ⟨.saved, rfl, fun _ _ _ h ↦ ?_⟩
      rcases h with ⟨_, -, h⟩ | ⟨-, _, rfl⟩ | ⟨-, _, rfl⟩
      · exact h.awaits
      · exact .inr rfl
      · trivial
  | delivering =>
    refine ⟨.saved, rfl, fun _ _ _ h ↦ ?_⟩
    cases hfailure : answer.failure? <;>
    · simp only [JobLeads, hfailure] at h
      exact Goes.awaits h
  | releasing =>
    rcases answer with error | ⟨⟩
    · exact ⟨.broken, rfl, fun _ _ _ h ↦ Fails.awaits h⟩
    · exact ⟨.opened, rfl, fun _ _ _ h ↦ Goes.awaits h⟩
  | undoing =>
    rcases answer with error | ⟨⟩
    · exact ⟨.broken, rfl, fun _ _ _ h ↦ Fails.awaits h⟩
    · exact ⟨.saved, rfl, fun _ _ _ h ↦ Disposes.awaits h⟩
  | puttingOff | puttingBack =>
    rcases answer with error | rows
    · exact ⟨.broken, rfl, fun _ _ _ h ↦ Fails.awaits h⟩
    · exact ⟨.saved, rfl, fun _ _ _ h ↦ Goes.awaits h⟩
  | committingClaim =>
    rcases answer with error | ⟨⟩
    · exact ⟨.broken, rfl, fun _ _ _ h ↦ Fails.awaits h⟩
    · exact ⟨.closed, rfl, fun _ _ _ h ↦ Goes.awaits h⟩
  | beginningArchive =>
    rcases answer with error | ⟨⟩
    · exact ⟨.broken, rfl, fun _ _ _ h ↦ Fails.awaits h⟩
    · refine ⟨.opened, rfl, fun _ _ _ h ↦ ?_⟩
      obtain ⟨_, h⟩ := h
      exact h.awaits
  | archiving =>
    rcases answer with error | rows
    · exact ⟨.broken, rfl, fun _ _ _ h ↦ Fails.awaits h⟩
    · exact ⟨.opened, rfl, fun _ _ _ h ↦ Goes.awaits h⟩
  | committingSuccess | committingPutOff | committingPutBack | committingArchive =>
    rcases answer with error | ⟨⟩
    · exact ⟨.broken, rfl, fun _ _ _ h ↦ Fails.awaits h⟩
    · exact ⟨.closed, rfl, fun _ _ _ h ↦ h.1.awaits⟩

theorem session?_of_call {statement : Statement}
    (h : point.call duties = .execute session statement) : point.session? = some session := by
  cases point with
  | idle | starting | atConnectGate | connecting | atFailureGate | asleep | crashed | closing =>
    cases h
  | polling other cycle stage =>
    cases stage with
    | replanning => cases h
    | beginning | probing | bounding | claiming | abandoning =>
      exact congrArg some (Call.execute.inj h).1
  | working other job stage =>
    cases stage with
    | delivering => cases h
    | saving | deduplicating | releasing | committingSuccess | undoing | puttingOff
      | committingPutOff | puttingBack | committingPutBack | committingClaim | beginningArchive
      | archiving | committingArchive => exact congrArg some (Call.execute.inj h).1
  | rollingBack => exact congrArg some (Call.execute.inj h).1

/-- Whatever the answer, what a worker has sent was in order, and wherever the worker goes, it expects
the phase that has come about. -/
theorem Awaits.answered {phase : Phase} (h : point.Awaits phase)
    (hsession : point.session? = some session) (answer : (point.call duties).Answer) :
    ∃ next, phase.hear (point.call duties) answer = some next ∧
      ∀ bounds bounds' point', point.Leads duties bounds answer bounds' point' →
        point'.Awaits next := by
  cases point with
  | idle | starting | atConnectGate | connecting => cases hsession
  | atFailureGate | asleep =>
    obtain rfl : phase = .closed := h
    exact ⟨.closed, rfl, fun _ _ _ hleads ↦ hleads.1.awaits⟩
  | polling other cycle stage =>
    obtain rfl : phase = stage.phase := h
    exact PollLeads.awaits answer
  | working other job stage =>
    obtain rfl : phase = stage.phase := h
    exact JobLeads.awaits answer
  | rollingBack other fault =>
    refine ⟨.undone, ?_, fun _ _ _ hleads ↦ GivesUp.awaits hleads _⟩
    obtain rfl | rfl := h <;> rcases answer with error | ⟨⟩ <;> rfl
  | closing other last =>
    exact ⟨phase, rfl, fun _ _ _ hleads ↦ IsUnconnected.awaits hleads.2 _⟩
  | crashed other text =>
    refine ⟨phase, rfl, fun _ _ _ hleads ↦ ?_⟩
    rw [hleads.2]
    trivial

/-- The statement that a worker waits for is in order. -/
theorem Awaits.afterSuccess {phase : Phase} {statement : Statement} (h : point.Awaits phase)
    (hcall : point.call duties = .execute session statement) :
    ∃ next, phase.afterSuccess statement = some next := by
  have hhear (answer : (point.call duties).Answer) :
      ∃ next, phase.hear (point.call duties) answer = some next := by
    obtain ⟨next, hnext, -⟩ := h.answered (session?_of_call hcall) answer
    exact ⟨next, hnext⟩
  rw [hcall] at hhear
  obtain ⟨next, hnext⟩ := hhear (.error Server.goneError)
  obtain ⟨success, hsuccess, -⟩ := Option.map_eq_some_iff.1 hnext
  exact ⟨success, hsuccess⟩

end Point

/-! ## Phases and the server -/

namespace Phase

variable {phase next : Phase} {statement : Statement} {transaction : Transaction}

theorem eq_begin_of_closed (h : closed.afterSuccess statement = some next) :
    statement = .command .begin ∧ next = opened := by
  cases statement with
  | command order =>
    cases order with
    | begin => exact ⟨rfl, (Option.some.inj h).symm⟩
    | commit | rollback | setSavepoint | releaseSavepoint | rollbackToSavepoint => cases h
  | oldest | recent | claim | takeDuplicates | putBack | putOff | archive | note => cases h

theorem eq_rollback_of_broken (h : broken.afterSuccess statement = some next) :
    statement = .command .rollback ∧ next = undone := by
  cases statement with
  | command order =>
    cases order with
    | rollback => exact ⟨rfl, (Option.some.inj h).symm⟩
    | begin | commit | setSavepoint | releaseSavepoint | rollbackToSavepoint => cases h
  | oldest | recent | claim | takeDuplicates | putBack | putOff | archive | note => cases h

/-- After the rollback of a broken transaction nothing more is in order. -/
theorem afterSuccess_undone (statement : Statement) : undone.afterSuccess statement = none := by
  cases statement with
  | command order => cases order <;> rfl
  | oldest | recent | claim | takeDuplicates | putBack | putOff | archive | note => rfl

/-- What is in order befits the transaction, except for the rollback after an error. -/
theorem Matches.befits (h : phase.Matches transaction)
    (hnext : phase.afterSuccess statement = some next) (hphase : phase ≠ .broken) :
    statement.Befits transaction := by
  cases phase with
  | closed =>
    obtain ⟨rfl, -⟩ := eq_begin_of_closed hnext
    exact h
  | opened =>
    obtain ⟨changes, rfl⟩ := h
    cases statement with
    | command order =>
      cases order with
      | begin | releaseSavepoint | rollbackToSavepoint => cases hnext
      | commit | rollback | setSavepoint => exact nofun
    | oldest | recent | claim | archive => exact nofun
    | takeDuplicates | putBack | putOff | note => cases hnext
  | saved =>
    have hopen : transaction ≠ .idle := by
      obtain ⟨changes, earlier, rfl | rfl⟩ := h <;> exact nofun
    have hsavepoint : transaction.savepoint?.isSome := by
      obtain ⟨changes, earlier, rfl | rfl⟩ := h <;> rfl
    cases statement with
    | command order =>
      cases order with
      | begin | setSavepoint => cases hnext
      | commit | rollback => exact hopen
      | releaseSavepoint | rollbackToSavepoint => exact hsavepoint
    | takeDuplicates | putBack | putOff | note => exact hopen
    | oldest | recent | claim | archive => cases hnext
  | broken => exact absurd rfl hphase
  | undone => cases (afterSuccess_undone statement).symm.trans hnext

variable {store store' : Store} {session : Nat} {now : Instant}

/-- In an active transaction a statement that is no command leaves the savepoint as it is. -/
theorem transaction_execute {changes : Changes} {savepoint : Option Changes}
    (hactive : store.transaction session = .active changes savepoint)
    (hstatement : ∀ order, statement ≠ .command order) :
    ∃ changes', (store.execute session now statement).1.transaction session =
      .active changes' savepoint := by
  cases statement with
  | command order => exact absurd rfl (hstatement order)
  | oldest | recent => exact ⟨changes, hactive⟩
  | claim queue notBefore =>
    cases hclaimed : store.claimed session queue notBefore now with
    | none =>
      rw [Store.execute_claim_of_none hclaimed]
      exact ⟨changes, hactive⟩
    | some entry =>
      rw [Store.execute_claim_of_some hclaimed]
      exact ⟨_, Store.transaction_delete hactive _⟩
  | takeDuplicates => exact ⟨_, Store.transaction_delete hactive _⟩
  | putBack | putOff => exact ⟨_, Store.transaction_insert hactive _ _⟩
  | archive => exact ⟨_, Store.transaction_archive hactive _ _ _ _ _⟩
  | note => exact ⟨_, Store.transaction_note hactive _ _⟩

/-- A statement other than a command that succeeds has met an active transaction or none. -/
theorem not_failed_of_perform {reply : statement.Reply}
    (hreply : (store.perform session now statement).2 = .ok reply)
    (hstatement : ∀ order, statement ≠ .command order) (changes : Changes)
    (savepoint : Option Changes) : store.transaction session ≠ .failed changes savepoint := by
  intro hfailed
  have hadmitted : Store.isAdmittedAfterFailure statement = false := by
    cases statement with
    | command order => exact absurd rfl (hstatement order)
    | oldest | recent | claim | takeDuplicates | putBack | putOff | archive | note => rfl
  rw [Store.perform_of_failed now hfailed hadmitted] at hreply
  cases hreply

/-- A commit leaves no transaction, whatever becomes of it. -/
theorem transaction_perform_commit (store : Store) (session : Nat) (now : Instant) :
    (store.perform session now (.command .commit)).1.transaction session = .idle := by
  obtain ⟨_, _, -, heq⟩ | heq := store.perform_commit_cases session now <;>
  · rw [heq]
    exact Store.transaction_setTransaction_self _ _ _

/-- A statement that is in order in an opened transaction keeps phase and transaction together. -/
theorem Matches.perform_opened (h : opened.Matches (store.transaction session))
    (hnext : opened.afterSuccess statement = some next) :
    next.Matches ((store.perform session now statement).1.transaction session) := by
  obtain ⟨changes, hactive⟩ := h
  have hkeeps (hstatement : ∀ order, statement ≠ .command order) :
      opened.Matches ((store.perform session now statement).1.transaction session) := by
    rw [Store.perform_of_active now hactive]
    exact transaction_execute hactive hstatement
  cases statement with
  | command order =>
    cases order with
    | begin | releaseSavepoint | rollbackToSavepoint => cases hnext
    | commit =>
      obtain rfl := Option.some.inj hnext
      exact transaction_perform_commit store session now
    | rollback =>
      obtain rfl := Option.some.inj hnext
      rw [Store.perform_rollback]
      exact Store.transaction_setTransaction_self _ _ _
    | setSavepoint =>
      obtain rfl := Option.some.inj hnext
      rw [Store.perform_setSavepoint now hactive]
      exact ⟨_, _, .inl (Store.transaction_setTransaction_self _ _ _)⟩
  | oldest | recent | claim | archive =>
    obtain rfl := Option.some.inj hnext
    exact hkeeps nofun
  | takeDuplicates | putBack | putOff | note => cases hnext

/-- A statement that is in order after the savepoint keeps phase and transaction together. -/
theorem Matches.perform_saved {reply : statement.Reply}
    (h : saved.Matches (store.transaction session))
    (hnext : saved.afterSuccess statement = some next)
    (hreply : (store.perform session now statement).2 = .ok reply) :
    next.Matches ((store.perform session now statement).1.transaction session) := by
  obtain ⟨changes, earlier, hstate⟩ := h
  have hkeeps (hstatement : ∀ order, statement ≠ .command order) :
      saved.Matches ((store.perform session now statement).1.transaction session) := by
    have hactive := hstate.resolve_right (not_failed_of_perform hreply hstatement _ _)
    rw [Store.perform_of_active now hactive]
    obtain ⟨changes', htransaction⟩ := transaction_execute hactive hstatement
    exact ⟨changes', earlier, .inl htransaction⟩
  cases statement with
  | command order =>
    cases order with
    | begin | setSavepoint => cases hnext
    | commit =>
      obtain rfl := Option.some.inj hnext
      exact transaction_perform_commit store session now
    | rollback =>
      obtain rfl := Option.some.inj hnext
      trivial
    | releaseSavepoint =>
      obtain rfl := Option.some.inj hnext
      obtain hactive | hfailed := hstate
      · rw [Store.perform_releaseSavepoint now hactive]
        exact ⟨_, Store.transaction_setTransaction_self _ _ _⟩
      · rw [Store.perform_of_failed now hfailed rfl] at hreply
        cases hreply
    | rollbackToSavepoint =>
      obtain rfl := Option.some.inj hnext
      rw [Store.perform_rollbackToSavepoint now hstate]
      exact ⟨_, _, .inl (Store.transaction_setTransaction_self _ _ _)⟩
  | takeDuplicates | putBack | putOff | note =>
    obtain rfl := Option.some.inj hnext
    exact hkeeps nofun
  | oldest | recent | claim | archive => cases hnext

/-- A statement in order that succeeds leads to a transaction that matches the next phase. -/
theorem Matches.perform {reply : statement.Reply}
    (h : phase.Matches (store.transaction session))
    (hnext : phase.afterSuccess statement = some next)
    (hperform : store.perform session now statement = (store', .ok reply)) :
    next.Matches (store'.transaction session) := by
  have hstore : (store.perform session now statement).1 = store' := congrArg Prod.fst hperform
  have hreply : (store.perform session now statement).2 = .ok reply := congrArg Prod.snd hperform
  rw [← hstore]
  cases phase with
  | closed =>
    obtain ⟨rfl, rfl⟩ := eq_begin_of_closed hnext
    rw [Store.perform_begin now h]
    exact ⟨_, Store.transaction_setTransaction_self _ _ _⟩
  | opened => exact h.perform_opened hnext
  | saved => exact h.perform_saved hnext hreply
  | broken =>
    obtain ⟨rfl, rfl⟩ := eq_rollback_of_broken hnext
    trivial
  | undone => cases (afterSuccess_undone statement).symm.trans hnext

/-- Whatever befalls a statement in order, the transaction matches the phase that comes about, unless
the connection is gone. -/
theorem Matches.exchange {server : Server} {mishap : Option Mishap}
    (h : server.isLive session = true → phase.Matches (server.store.transaction session))
    (hnext : phase.advance statement (server.exchange session now mishap statement).2.isOk =
      some next)
    (hlive : (server.exchange session now mishap statement).1.isLive session = true) :
    next.Matches ((server.exchange session now mishap statement).1.store.transaction session) := by
  obtain ⟨success, hsuccess, hadvance⟩ := Option.map_eq_some_iff.1 hnext
  cases hreply : (server.exchange session now mishap statement).2 with
  | ok reply =>
    obtain ⟨hbefore, -, reply', -, hperform⟩ := Server.exchange_of_ok hreply
    rw [hreply] at hadvance
    obtain rfl : success = next := hadvance
    exact (h hbefore).perform hsuccess hperform
  | error error =>
    rw [hreply] at hadvance
    obtain rfl : phase.afterError statement = next := hadvance
    have hbefore : server.isLive session = true := Server.confined_exchange.isLive hlive
    cases statement with
    | note text =>
      have hsaved : phase = .saved := by
        cases phase <;> first | rfl | cases hsuccess
      subst hsaved
      obtain ⟨changes, earlier, hstate⟩ := h hbefore
      obtain ⟨-, noted, hstate'⟩ := Server.exchange_note hstate hlive
      exact ⟨_, earlier, hstate'⟩
    | command order =>
      cases order <;> exact trivial
    | oldest | recent | claim | takeDuplicates | putBack | putOff | archive => trivial

end Phase

/-- Whether a call is made on a connection, if it is made on any. -/
def Call.Concerns (session : Nat) : Call α → Prop
  | .execute other _ | .deallocate other | .deliver other _ | .close other => other = session
  | .pause => True
  | .connect => False

theorem Point.call_concerns {point : Point α} {session : Nat}
    (h : point.session? = some session) : (point.call duties).Concerns session := by
  cases point with
  | idle | starting | atConnectGate | connecting => cases h
  | atFailureGate | asleep | crashed => trivial
  | polling other cycle stage =>
    obtain rfl := Option.some.inj h
    cases stage <;> rfl
  | working other job stage =>
    obtain rfl := Option.some.inj h
    cases stage <;> rfl
  | rollingBack | closing => exact Option.some.inj h

theorem Server.isLive_deallocate (server : Server) (session other : Nat) :
    (server.deallocate session).1.isLive other = server.isLive other := by
  unfold deallocate
  split
  · exact @isLive_update server session (fun old ↦ { old with prepared := Prepared.empty })
      (fun _ ↦ rfl) (fun _ ↦ rfl) other
  · rfl

theorem Server.store_deallocate (server : Server) (session : Nat) :
    (server.deallocate session).1.store = server.store := by
  unfold deallocate
  split <;> rfl

/-- An answer to a call on a connection concerns only that connection. -/
theorem Server.confined_answer {server : Server} {session : Nat} {now : Instant} {chance : Chance}
    {call : Call α} (h : call.Concerns session) :
    Confined session server (server.answer now chance call).1 := by
  cases call with
  | pause | deliver => exact Confined.refl session server
  | connect => exact h.elim
  | execute other statement =>
    obtain rfl : other = session := h
    exact confined_exchange
  | deallocate other =>
    obtain rfl : other = session := h
    simp only [answer]
    split
    · exact confined_deallocate
    · exact Confined.refl other server
  | close other =>
    obtain rfl : other = session := h
    exact confined_close

/-- Whatever the answer to a call, the transaction matches the phase that comes about, unless the
connection is gone. -/
theorem Phase.Matches.answered {phase next : Phase} {session : Nat} {server server' : Server}
    {now : Instant} {chance : Chance} {call : Call α} {answer : call.Answer}
    (hconcerns : call.Concerns session)
    (h : server.isLive session = true → phase.Matches (server.store.transaction session))
    (hanswer : server.answer now chance call = (server', some answer))
    (hhear : phase.hear call answer = some next) (hlive : server'.isLive session = true) :
    next.Matches (server'.store.transaction session) := by
  obtain ⟨hserver, hreply⟩ := Prod.mk.inj hanswer
  cases call with
  | pause => cases hreply
  | connect => exact hconcerns.elim
  | execute other statement =>
    obtain rfl : other = session := hconcerns
    obtain rfl := Option.some.inj hreply
    subst hserver
    exact Matches.exchange h hhear hlive
  | deallocate other =>
    obtain rfl := Option.some.inj hhear
    simp only [Server.answer] at hanswer
    split at hanswer
    · obtain ⟨rfl, -⟩ := Prod.mk.inj hanswer
      rw [Server.isLive_deallocate] at hlive
      rw [Server.store_deallocate]
      exact h hlive
    · obtain ⟨rfl, -⟩ := Prod.mk.inj hanswer
      exact h hlive
  | deliver other job =>
    obtain rfl := Option.some.inj hhear
    subst hserver
    exact h hlive
  | close other =>
    obtain rfl : other = session := hconcerns
    subst hserver
    exact absurd (Server.isLive_close.symm.trans hlive) Bool.false_ne_true

end TableQueue
