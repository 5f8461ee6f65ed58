import TableQueue.Proofs.Store.Transactions

/-!
# What statements do to the store

A statement touches the transaction of its own session, and only a commit touches the tables. Each
statement that a worker sends has one law for the state of the transaction in which it is sent.
-/

namespace TableQueue.Store

variable {store : Store} {session : Nat}

/-! ## Every statement -/

theorem execute_claim_of_some {queue : String} {notBefore now : Instant} {entry : Entry}
    (h : store.claimed session queue notBefore now = some entry) :
    store.execute session now (.claim queue notBefore) =
      (store.delete session [entry], .ok (some entry.row)) := by
  simp only [execute, h]

theorem execute_claim_of_none {queue : String} {notBefore now : Instant}
    (h : store.claimed session queue notBefore now = none) :
    store.execute session now (.claim queue notBefore) = (store, .ok none) := by
  simp only [execute, h]

/-- Every command leaves the store sound. -/
theorem Sound.executeCommand (h : store.Sound) (session : Nat) (command : Command) :
    (store.executeCommand session command).1.Sound := by
  have hwithin := h.within session
  unfold Store.executeCommand
  split
  · exact h.setTransaction (admits_none _ _) (by simp [Transaction.savepoint?])
  · exact h
  · next changes savepoint hactive => exact h.commit hactive
  · exact h.setIdle session
  · exact h.setIdle session
  · next changes savepoint hactive =>
    have hadmits := h.admits session
    rw [hactive] at hadmits
    refine h.setTransaction hadmits fun saved hsaved ↦ ?_
    rw [← Option.some.inj hsaved]
    exact Changes.Within.refl _
  · next changes saved hactive =>
    have hadmits := h.admits session
    rw [hactive] at hadmits
    exact h.setTransaction hadmits (by simp [Transaction.savepoint?])
  all_goals try exact h
  all_goals
    next changes saved heq =>
    have hsaved := hwithin saved (by rw [heq]; rfl)
    refine h.setTransaction ((h.admits session).of_within hsaved) fun saved' hsaved' ↦ ?_
    rw [← Option.some.inj hsaved']
    exact Changes.Within.refl _

/-- Every statement that is carried out leaves the store sound. -/
theorem Sound.execute (h : store.Sound) (session : Nat) (now : Instant) (statement : Statement) :
    (store.execute session now statement).1.Sound := by
  cases statement with
  | command command => exact h.executeCommand session command
  | oldest queue => exact h
  | recent => exact h
  | claim queue notBefore =>
    cases hclaimed : store.claimed session queue notBefore now with
    | none =>
      rw [execute_claim_of_none hclaimed]
      exact h
    | some entry =>
      rw [execute_claim_of_some hclaimed]
      exact h.delete fun other hother ↦
        List.mem_singleton.1 hother ▸ (mem_of_claimed hclaimed).1
  | takeDuplicates queue values includePostponed =>
    exact h.delete fun entry hentry ↦ (takable_of_mem_duplicates hentry).1
  | putBack queue queued dequeueAfter tries job => exact h.insert session _ now
  | putOff queue queued delayMillis tries job => exact h.insert session _ now
  | archive queue queued diagnosis job =>
    unfold Store.execute
    simp only [setChanges_bump]
    refine h.bump.setChanges (h.admits_next ?_ rfl) ⟨List.Subset.refl _, List.Sublist.refl _, ?_⟩
    · simp only [Changes.numbers, List.map_append, List.map_cons, List.map_nil,
        ← List.append_assoc]
      exact List.perm_append_singleton _ _
    · exact List.sublist_append_left _ _
  | note text =>
    unfold Store.execute
    simp only [setChanges_bump]
    have hold := h.bump.admits session
    exact h.bump.setChanges ⟨hold.nodup, hold.lt, hold.new, hold.apart, hold.unlocked⟩
      ⟨List.Subset.refl _, List.Sublist.refl _, List.Sublist.refl _⟩

theorem Sound.perform (h : store.Sound) (session : Nat) (now : Instant) (statement : Statement) :
    (store.perform session now statement).1.Sound := by
  unfold Store.perform
  split
  · exact h
  · exact h.execute session now statement

/-- A refused statement leaves the store sound. -/
theorem Sound.refuse (h : store.Sound) (session : Nat) (statement : Statement) :
    (store.refuse session statement).Sound := by
  have hadmits := h.admits session
  have hwithin := h.within session
  unfold Store.refuse
  split
  · exact h.setIdle session
  · exact h.setIdle session
  · next changes savepoint _ hactive =>
    rw [hactive] at hadmits hwithin
    exact h.setTransaction hadmits hwithin
  · exact h

/-! ## Frames -/

theorem transaction_executeCommand_of_ne {other : Nat} (h : other ≠ session) (command : Command) :
    (store.executeCommand session command).1.transaction other = store.transaction other := by
  unfold executeCommand
  split <;> simp [h]

/-- A statement does not touch the transactions of other sessions. -/
theorem transaction_perform_of_ne {other : Nat} (h : other ≠ session) (now : Instant)
    (statement : Statement) :
    (store.perform session now statement).1.transaction other = store.transaction other := by
  unfold perform
  split
  · rfl
  · cases statement with
    | command command => exact transaction_executeCommand_of_ne h command
    | claim queue notBefore =>
      cases hclaimed : store.claimed session queue notBefore now with
      | none => rw [execute_claim_of_none hclaimed]
      | some entry =>
        rw [execute_claim_of_some hclaimed]
        exact transaction_setChanges_of_ne h _
    | oldest | recent => rfl
    | takeDuplicates | putBack | putOff | archive | note => exact transaction_setChanges_of_ne h _

theorem transaction_refuse_of_ne {other : Nat} (h : other ≠ session) (statement : Statement) :
    (store.refuse session statement).transaction other = store.transaction other := by
  unfold refuse
  split <;> simp [h]

structure SameTables (store store' : Store) : Prop where
  queue : store'.queue = store.queue
  archive : store'.archive = store.archive
  next : store.next ≤ store'.next

theorem SameTables.refl (store : Store) : store.SameTables store := ⟨rfl, rfl, Nat.le_refl _⟩

theorem sameTables_setTransaction (store : Store) (session : Nat) (transaction : Transaction) :
    store.SameTables (store.setTransaction session transaction) := ⟨rfl, rfl, Nat.le_refl _⟩

theorem sameTables_setChanges (store : Store) (session : Nat) (new : Changes) :
    store.SameTables (store.setChanges session new) := by
  obtain heq | ⟨_, _, _, heq⟩ := setChanges_cases store session new <;> rw [heq]
  · exact SameTables.refl store
  · exact sameTables_setTransaction _ _ _

theorem sameTables_delete (store : Store) (session : Nat) (entries : List Entry) :
    store.SameTables (store.delete session entries) := sameTables_setChanges _ _ _

theorem sameTables_setChanges_bump (store : Store) (session : Nat) (new : Changes) :
    store.SameTables { store.setChanges session new with next := store.next + 1 } :=
  have h := sameTables_setChanges store session new
  ⟨h.queue, h.archive, Nat.le_succ _⟩

theorem sameTables_insert (store : Store) (session : Nat) (row : Row) (now : Instant) :
    store.SameTables (store.insert session row now) := sameTables_setChanges_bump _ _ _

theorem sameTables_refuse (store : Store) (session : Nat) (statement : Statement) :
    store.SameTables (store.refuse session statement) := by
  unfold refuse
  split
  all_goals first | exact SameTables.refl store | exact sameTables_setTransaction _ _ _

/-- Only a commit changes the tables. -/
theorem sameTables_executeCommand (store : Store) (session : Nat) {command : Command}
    (h : command ≠ .commit) : store.SameTables (store.executeCommand session command).1 := by
  unfold executeCommand
  split
  all_goals first
    | exact absurd rfl h
    | exact SameTables.refl store
    | exact sameTables_setTransaction _ _ _

/-- Only a commit changes the committed tables. -/
theorem sameTables_perform (store : Store) (session : Nat) (now : Instant) {statement : Statement}
    (h : statement ≠ .command .commit) :
    store.SameTables (store.perform session now statement).1 := by
  unfold perform
  split
  · exact SameTables.refl store
  · cases statement with
    | command command =>
      exact sameTables_executeCommand store session fun heq ↦ h (heq ▸ rfl)
    | claim queue notBefore =>
      cases hclaimed : store.claimed session queue notBefore now with
      | none =>
        rw [execute_claim_of_none hclaimed]
        exact SameTables.refl store
      | some entry =>
        rw [execute_claim_of_some hclaimed]
        exact sameTables_setChanges _ _ _
    | oldest | recent => exact SameTables.refl store
    | takeDuplicates => exact sameTables_setChanges _ _ _
    | putBack | putOff | archive | note => exact sameTables_setChanges_bump _ _ _

/-- A statement that meets an error leaves the store as it is. -/
theorem perform_of_error {now : Instant} {statement : Statement} {error : DatabaseError}
    (h : (store.perform session now statement).2 = .error error) :
    (store.perform session now statement).1 = store := by
  unfold perform at h ⊢
  split
  · rfl
  · next hadmitted =>
    rw [if_neg hadmitted] at h
    cases statement with
    | command command =>
      simp only [execute, executeCommand] at h ⊢
      split at h <;> first | rfl | cases h
    | claim queue notBefore =>
      simp only [execute] at h
      split at h <;> cases h
    | oldest | recent | takeDuplicates | putBack | putOff | archive | note => cases h

/-! ## Each statement where it is sent -/

theorem perform_begin (now : Instant) (h : store.transaction session = .idle) :
    store.perform session now (.command .begin) =
      (store.setTransaction session (.active Changes.none none), .ok ()) := by
  simp only [perform, hasFailed, h, Bool.false_and, Bool.false_eq_true, if_false, execute,
    executeCommand]

/-- A commit takes the changes over into the tables and ends the transaction. -/
theorem perform_commit {changes : Changes} {savepoint : Option Changes} (now : Instant)
    (h : store.transaction session = .active changes savepoint) :
    store.perform session now (.command .commit) =
      ((store.apply changes).setTransaction session .idle, .ok ()) := by
  simp only [perform, hasFailed, h, Bool.false_and, Bool.false_eq_true, if_false, execute,
    executeCommand]

/-- A rollback ends the transaction, whatever its state. -/
theorem perform_rollback (store : Store) (session : Nat) (now : Instant) :
    store.perform session now (.command .rollback) =
      (store.setTransaction session .idle, .ok ()) := by
  simp only [perform, isAdmittedAfterFailure, Bool.not_true, Bool.and_false, Bool.false_eq_true,
    if_false, execute, executeCommand]

theorem idle_of_commit {store' : Store} {changes : Changes} {savepoint : Option Changes}
    {now : Instant} {reply : Unit} (h : store.transaction session = .active changes savepoint)
    (hperform : store.perform session now (.command .commit) = (store', .ok reply)) :
    store'.transaction session = .idle := by
  rw [perform_commit now h] at hperform
  have hstore : (store.apply changes).setTransaction session .idle = store' :=
    congrArg Prod.fst hperform
  rw [← hstore]
  exact transaction_setTransaction_self _ _ _

/-- A commit takes the changes of an active transaction over and only ends any other one. -/
theorem perform_commit_cases (store : Store) (session : Nat) (now : Instant) :
    (∃ changes savepoint, store.transaction session = .active changes savepoint ∧
      store.perform session now (.command .commit) =
        ((store.apply changes).setTransaction session .idle, .ok ())) ∨
    store.perform session now (.command .commit) =
      (store.setTransaction session .idle, .ok ()) := by
  cases htransaction : store.transaction session with
  | active changes savepoint =>
    exact .inl ⟨changes, savepoint, rfl, perform_commit now htransaction⟩
  | idle | failed =>
    refine .inr ?_
    simp only [perform, isAdmittedAfterFailure, Bool.not_true, Bool.and_false, Bool.false_eq_true,
      if_false, execute, executeCommand, htransaction]

/-- What one session has deleted, another one does not remove from the tables. -/
theorem Sound.mem_queue_perform (h : store.Sound) {other : Nat} (hother : other ≠ session)
    (now : Instant) (statement : Statement) {entry : Entry} (hmem : entry ∈ store.queue)
    (hdeleted : entry.number ∈ (store.transaction other).changes.deleted) :
    entry ∈ (store.perform session now statement).1.queue := by
  by_cases hcommit : statement = .command .commit
  · subst hcommit
    obtain ⟨changes, savepoint, hactive, heq⟩ | heq := perform_commit_cases store session now
    · have hunlocked := (h.admits other).unlocked session (Ne.symm hother) _ hdeleted
      rw [hactive] at hunlocked
      rw [heq]
      exact mem_queue_apply.2 ⟨.inl hmem, hunlocked⟩
    · rw [heq]
      exact hmem
  · rw [(sameTables_perform store session now hcommit).queue]
    exact hmem

theorem perform_setSavepoint {changes : Changes} {savepoint : Option Changes} (now : Instant)
    (h : store.transaction session = .active changes savepoint) :
    store.perform session now (.command .setSavepoint) =
      (store.setTransaction session (.active changes (some changes)), .ok ()) := by
  simp only [perform, hasFailed, h, Bool.false_and, Bool.false_eq_true, if_false, execute,
    executeCommand]

/-- The release of the savepoint keeps all changes. -/
theorem perform_releaseSavepoint {changes saved : Changes} (now : Instant)
    (h : store.transaction session = .active changes (some saved)) :
    store.perform session now (.command .releaseSavepoint) =
      (store.setTransaction session (.active changes none), .ok ()) := by
  simp only [perform, hasFailed, h, Bool.false_and, Bool.false_eq_true, if_false, execute,
    executeCommand]

/-- A statement that is not admitted after a failure meets an error in a failed transaction. -/
theorem perform_of_failed {changes : Changes} {savepoint : Option Changes} {statement : Statement}
    (now : Instant) (h : store.transaction session = .failed changes savepoint)
    (hstatement : isAdmittedAfterFailure statement = false) :
    store.perform session now statement = (store, .error aborted) := by
  simp only [perform, hasFailed, h, hstatement, Bool.not_false, Bool.and_self, if_true]

/-- A rollback to the savepoint restores the changes made before it. -/
theorem perform_rollbackToSavepoint {changes saved : Changes} (now : Instant)
    (h : store.transaction session = .active changes (some saved) ∨
      store.transaction session = .failed changes (some saved)) :
    store.perform session now (.command .rollbackToSavepoint) =
      (store.setTransaction session (.active saved (some saved)), .ok ()) := by
  rcases h with h | h <;>
    simp only [perform, isAdmittedAfterFailure, Bool.not_true, Bool.and_false, Bool.false_eq_true,
      if_false, execute, executeCommand, h]

/-- Where a session has inserted nothing, what it can take are committed rows. -/
theorem mem_queue_of_takable {now : Instant} {entry : Entry}
    (hinserted : (store.transaction session).changes.inserted = [])
    (h : entry ∈ store.takable session now) : entry ∈ store.queue := by
  have hvisible := (mem_visible.1 (mem_takable.1 h).1).1
  rw [hinserted] at hvisible
  exact hvisible.resolve_right List.not_mem_nil

theorem transaction_delete {changes : Changes} {savepoint : Option Changes}
    (h : store.transaction session = .active changes savepoint) (entries : List Entry) :
    (store.delete session entries).transaction session =
      .active { changes with deleted := changes.deleted ++ entries.map Entry.number } savepoint := by
  unfold delete
  rw [transaction_setChanges h, h]
  rfl

theorem transaction_insert {changes : Changes} {savepoint : Option Changes}
    (h : store.transaction session = .active changes savepoint) (row : Row) (now : Instant) :
    (store.insert session row now).transaction session =
      .active { changes with inserted := changes.inserted ++ [⟨store.next, now, row⟩] }
        savepoint := by
  have hchanges : (store.transaction session).changes = changes := congrArg Transaction.changes h
  rw [← hchanges]
  exact transaction_setChanges h _

theorem transaction_archive {changes : Changes} {savepoint : Option Changes}
    (h : store.transaction session = .active changes savepoint) (now : Instant) (queue : String)
    (queued : Instant) (diagnosis : String) (job : List Cell) :
    (store.execute session now (.archive queue queued diagnosis job)).1.transaction session =
      .active { changes with
        archived := changes.archived ++ [(store.next, ⟨queue, queued, now, diagnosis, job⟩)] }
        savepoint := by
  have hchanges : (store.transaction session).changes = changes := congrArg Transaction.changes h
  rw [← hchanges]
  exact transaction_setChanges h _

theorem transaction_note {changes : Changes} {savepoint : Option Changes}
    (h : store.transaction session = .active changes savepoint) (now : Instant) (text : String) :
    (store.execute session now (.note text)).1.transaction session =
      .active { changes with noted := changes.noted ++ [(store.next, text)] } savepoint := by
  have hchanges : (store.transaction session).changes = changes := congrArg Transaction.changes h
  rw [← hchanges]
  exact transaction_setChanges h _

theorem perform_of_active {changes : Changes} {savepoint : Option Changes} {statement : Statement}
    (now : Instant) (h : store.transaction session = .active changes savepoint) :
    store.perform session now statement = store.execute session now statement := by
  simp only [perform, hasFailed, h, Bool.false_and, Bool.false_eq_true, if_false]

end TableQueue.Store
