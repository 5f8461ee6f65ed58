import TableQueue.Proofs.Store.Statements

/-!
# Lower bounds of queues

A store offers the rows that are in the queue and those that open transactions may still add to it.
A lower bound of a queue is an instant that has come and before which none of these rows becomes
eligible. Statements offer nothing new except the rows that they insert, so a lower bound stays one.
With a lower bound a claim takes the same row as without.
-/

namespace TableQueue

def Statement.inserted? (now : Instant) : Statement → Option Row
  | putBack queue queued dequeueAfter tries job =>
    some ⟨queue, some queued, dequeueAfter, some tries, job⟩
  | putOff queue queued delayMillis tries job =>
    some ⟨queue, some queued, now.after (Span.ofMillis delayMillis), some tries, job⟩
  | command _ | oldest _ | recent | claim .. | takeDuplicates .. | archive .. | note _ => none

namespace Store

variable {store store' : Store} {session : Nat} {now now' : Instant} {entry : Entry}
  {queue : String} {bound : Instant}

/-- An entry is in the queue, or an open transaction has inserted it. -/
def Offers (store : Store) (entry : Entry) : Prop :=
  entry ∈ store.queue ∨ ∃ session, entry ∈ (store.transaction session).changes.inserted

/-! ## What statements offer -/

theorem offers_of_setTransaction {transaction : Transaction}
    (hinserted : transaction.changes.inserted ⊆ (store.transaction session).changes.inserted)
    (h : (store.setTransaction session transaction).Offers entry) : store.Offers entry := by
  rcases h with hqueue | ⟨other, hmem⟩
  · exact .inl hqueue
  · by_cases hother : other = session
    · subst hother
      rw [transaction_setTransaction_self] at hmem
      exact .inr ⟨other, hinserted hmem⟩
    · rw [transaction_setTransaction_of_ne hother] at hmem
      exact .inr ⟨other, hmem⟩

theorem offers_of_setIdle (h : (store.setTransaction session .idle).Offers entry) :
    store.Offers entry :=
  offers_of_setTransaction (List.nil_subset _) h

theorem offers_of_setChanges {new : Changes}
    (h : (store.setChanges session new).Offers entry) :
    store.Offers entry ∨ entry ∈ new.inserted := by
  obtain heq | ⟨old, savepoint, hactive, heq⟩ := setChanges_cases store session new
  · exact .inl (heq ▸ h)
  · rw [heq] at h
    rcases h with hqueue | ⟨other, hmem⟩
    · exact .inl (.inl hqueue)
    · by_cases hother : other = session
      · subst hother
        rw [transaction_setTransaction_self] at hmem
        exact .inr hmem
      · rw [transaction_setTransaction_of_ne hother] at hmem
        exact .inl (.inr ⟨other, hmem⟩)

theorem offers_of_delete {entries : List Entry}
    (h : (store.delete session entries).Offers entry) : store.Offers entry := by
  unfold delete at h
  exact (offers_of_setChanges h).elim id fun hmem ↦ .inr ⟨session, hmem⟩

theorem offers_of_next {next : Nat} (h : ({ store with next } : Store).Offers entry) :
    store.Offers entry := h

theorem offers_of_commit {changes : Changes} {savepoint : Option Changes}
    (hactive : store.transaction session = .active changes savepoint)
    (h : ((store.apply changes).setTransaction session .idle).Offers entry) :
    store.Offers entry := by
  rcases offers_of_setIdle h with hqueue | ⟨other, hmem⟩
  · rcases (mem_queue_apply.1 hqueue).1 with hcommitted | hinserted
    · exact .inl hcommitted
    · refine .inr ⟨session, ?_⟩
      rw [hactive]
      exact hinserted
  · exact .inr ⟨other, hmem⟩

/-- No command offers a row that was not offered before. -/
theorem offers_of_executeCommand (hsound : store.Sound) {command : Command}
    (h : (store.executeCommand session command).1.Offers entry) : store.Offers entry := by
  have hwithin := hsound.within session
  unfold executeCommand at h
  split at h
  · exact offers_of_setTransaction (List.nil_subset _) h
  · exact h
  · next changes savepoint hactive => exact offers_of_commit hactive h
  · exact offers_of_setIdle h
  · exact offers_of_setIdle h
  · next changes savepoint hactive =>
    refine offers_of_setTransaction ?_ h
    rw [hactive]
    exact List.Subset.refl _
  · next changes saved hactive =>
    refine offers_of_setTransaction ?_ h
    rw [hactive]
    exact List.Subset.refl _
  all_goals try exact h
  all_goals
    next changes saved heq =>
    have hsaved := hwithin saved (by rw [heq]; rfl)
    refine offers_of_setTransaction ?_ h
    exact hsaved.inserted.subset

/-- An insertion offers nothing new but its row, visible at once. -/
theorem offers_of_insert {row : Row} (h : (store.insert session row now).Offers entry) :
    store.Offers entry ∨ entry.visibleFrom = now ∧ entry.row = row := by
  unfold insert at h
  rcases offers_of_setChanges (offers_of_next h) with hold | hmem
  · exact .inl hold
  · rcases List.mem_append.1 hmem with hown | hnew
    · exact .inl (.inr ⟨session, hown⟩)
    · obtain rfl := List.mem_singleton.1 hnew
      exact .inr ⟨rfl, rfl⟩

/-- A statement offers nothing new but the row that it inserts. -/
theorem Sound.offers_of_perform (hsound : store.Sound) {statement : Statement}
    (h : (store.perform session now statement).1.Offers entry) :
    store.Offers entry ∨
      entry.visibleFrom = now ∧ statement.inserted? now = some entry.row := by
  unfold Store.perform at h
  split at h
  · exact .inl h
  · cases statement with
    | command command => exact .inl (offers_of_executeCommand hsound h)
    | oldest | recent => exact .inl h
    | claim queue notBefore =>
      refine .inl ?_
      cases hclaimed : store.claimed session queue notBefore now with
      | none =>
        rw [execute_claim_of_none hclaimed] at h
        exact h
      | some claimed =>
        rw [execute_claim_of_some hclaimed] at h
        exact offers_of_delete h
    | takeDuplicates => exact .inl (offers_of_delete h)
    | putBack | putOff =>
      exact (offers_of_insert h).imp_right fun hnew ↦ ⟨hnew.1, congrArg some hnew.2.symm⟩
    | archive | note =>
      exact .inl ((offers_of_setChanges (offers_of_next h)).elim id fun hmem ↦ .inr ⟨session, hmem⟩)

theorem offers_of_refuse {statement : Statement}
    (h : (store.refuse session statement).Offers entry) : store.Offers entry := by
  unfold refuse at h
  split at h
  · exact offers_of_setIdle h
  · exact offers_of_setIdle h
  · next changes savepoint _ hactive =>
    refine offers_of_setTransaction ?_ h
    rw [hactive]
    exact List.Subset.refl _
  · exact h

/-- A producer offers nothing new but its row. -/
theorem offers_of_produce {row : Row} {visibleFrom : Instant}
    (h : (store.produce row visibleFrom).Offers entry) :
    store.Offers entry ∨ entry.visibleFrom = visibleFrom ∧ entry.row = row := by
  rcases h with hqueue | hinserted
  · rcases List.mem_append.1 hqueue with hold | hnew
    · exact .inl (.inl hold)
    · obtain rfl := List.mem_singleton.1 hnew
      exact .inr ⟨rfl, rfl⟩
  · exact .inl (.inr hinserted)

/-! ## Lower bounds -/

/-- An instant that has come and before which no row of a queue becomes eligible. -/
structure IsLowerBound (store : Store) (now : Instant) (queue : String) (bound : Instant) :
    Prop where
  past : bound ≤ now
  le : ∀ entry, store.Offers entry → entry.row.queue = queue → bound ≤ entry.row.dequeueAfter

/-- A lower bound outlives any change that offers no row below it. -/
theorem IsLowerBound.mono (h : store.IsLowerBound now queue bound) (hnow : now ≤ now')
    (hoffers : ∀ entry, store'.Offers entry → store.Offers entry ∨
      (entry.row.queue = queue → bound ≤ entry.row.dequeueAfter)) :
    store'.IsLowerBound now' queue bound where
  past := Int.le_trans h.past hnow
  le entry hentry hqueue := (hoffers entry hentry).elim (fun hold ↦ h.le entry hold hqueue)
    fun hnew ↦ hnew hqueue

/-- No row becomes visible in the future after it has become eligible. -/
def IsPunctual (store : Store) (now : Instant) : Prop :=
  ∀ entry, store.Offers entry →
    entry.visibleFrom ≤ now ∨ entry.visibleFrom ≤ entry.row.dequeueAfter

def IsQuiet (store : Store) : Prop := ∀ session, (store.transaction session).changes = Changes.none

def eligible (store : Store) (queue : String) (now : Instant) : List Entry :=
  store.queue.filter fun entry ↦ decide (entry.visibleFrom ≤ now) && isEligible entry.row queue now

theorem mem_eligible : entry ∈ store.eligible queue now ↔ entry ∈ store.queue ∧
    entry.visibleFrom ≤ now ∧ entry.row.queue = queue ∧ entry.row.dequeueAfter ≤ now := by
  simp [eligible, isEligible]

theorem IsQuiet.mem_queue (h : store.IsQuiet) (hoffers : store.Offers entry) :
    entry ∈ store.queue := by
  rcases hoffers with hqueue | ⟨session, hmem⟩
  · exact hqueue
  · rw [h session] at hmem
    exact absurd hmem List.not_mem_nil

theorem IsQuiet.visible_eq (h : store.IsQuiet) (session : Nat) (now : Instant) :
    store.visible session now = store.queue.filter fun entry ↦ entry.visibleFrom ≤ now := by
  simp [visible, h session, Changes.none]

/-- A probe looks at the eligible rows. -/
theorem IsQuiet.probed_eq (h : store.IsQuiet) (session : Nat) (queue : String) (now : Instant) :
    ((store.visible session now).filter fun entry ↦ isEligible entry.row queue now) =
      store.eligible queue now := by
  rw [h.visible_eq, List.filter_filter]
  exact List.filter_congr fun entry _ ↦ Bool.and_comm _ _

/-- In a quiet store a session can take whatever it sees. -/
theorem IsQuiet.takable_eq (h : store.IsQuiet) (hsound : store.Sound) (session : Nat)
    (now : Instant) : store.takable session now = store.visible session now := by
  apply List.filter_eq_self.2
  intro entry _
  rw [hsound.isLocked_eq_false fun other _ ↦ by rw [h other]; exact List.not_mem_nil]
  rfl

/-- What a probe finds is a lower bound. -/
theorem isLowerBound_of_earliest (hquiet : store.IsQuiet) (hpunctual : store.IsPunctual now)
    (h : earliest (store.eligible queue now) = some entry) :
    store.IsLowerBound now queue entry.row.dequeueAfter where
  past := (mem_eligible.1 (mem_of_earliest h)).2.2.2
  le other hother hqueue := by
    have hpast := (mem_eligible.1 (mem_of_earliest h)).2.2.2
    by_cases heligible : other.visibleFrom ≤ now ∧ other.row.dequeueAfter ≤ now
    · exact le_of_earliest h (mem_eligible.2
        ⟨hquiet.mem_queue hother, heligible.1, hqueue, heligible.2⟩)
    · have hlate := hpunctual other hother
      simp only [Instant.le_iff] at *
      omega

/-- If a probe finds nothing, the instant of the probe is a lower bound. -/
theorem isLowerBound_of_eligible_nil (hquiet : store.IsQuiet) (hpunctual : store.IsPunctual now)
    (h : earliest (store.eligible queue now) = none) : store.IsLowerBound now queue now where
  past := Int.le_refl _
  le other hother hqueue := by
    have hnone := earliest_eq_none_iff.1 h
    by_cases heligible : other.visibleFrom ≤ now ∧ other.row.dequeueAfter ≤ now
    · have hmem := mem_eligible.2 ⟨hquiet.mem_queue hother, heligible.1, hqueue, heligible.2⟩
      rw [hnone] at hmem
      exact absurd hmem List.not_mem_nil
    · have hlate := hpunctual other hother
      simp only [Instant.le_iff] at *
      omega

/-- A claim with a lower bound takes the first of all eligible rows. -/
theorem IsLowerBound.claimed_eq (h : store.IsLowerBound now queue bound) (hquiet : store.IsQuiet)
    (hsound : store.Sound) (session : Nat) :
    store.claimed session queue bound now = earliest (store.eligible queue now) := by
  unfold claimed eligible
  rw [hquiet.takable_eq hsound, hquiet.visible_eq, List.filter_filter]
  refine congrArg earliest (List.filter_congr fun entry hentry ↦ ?_)
  have hbound (hqueue : entry.row.queue = queue) : bound ≤ entry.row.dequeueAfter :=
    h.le entry (.inl hentry) hqueue
  by_cases hqueue : entry.row.queue = queue
  · simp [hbound hqueue, Bool.and_comm]
  · simp [isEligible, beq_false_of_ne hqueue]

end Store

end TableQueue
