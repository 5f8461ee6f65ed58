import TableQueue.Proofs.Conservation
import TableQueue.Proofs.Retries.Steady

/-!
# The lives of rows

A life follows a row like a ticket of the ledger, and keeps the deliveries of its job besides. Lives
are read off the events of a run: a delivery belongs to the row that the transaction of the worker
deletes. A life is tracked if its fate and its deliveries go together: every delivery but the latest
has led back to the queue, and the latest is under way or has decided the fate.
-/

namespace TableQueue

variable {α : Type} {duties : Duties α}

/-- A job that a handler was given, and how the handler received it. -/
structure Delivery (α : Type) where
  job : Job α
  reception : Reception

def Event.delivery? : Event α → Option (Delivery α)
  | .happened _ _ _ (.received job reception) => some ⟨job, reception⟩
  | _ => none

/-- A row with what has become of it and the deliveries of its job, the latest last. -/
structure Life (α : Type) extends Ticket where
  deliveries : List (Delivery α)

def Fate.isDeleted (changes : Changes) : Fate → Bool
  | waiting number _ => changes.deleted.contains number
  | _ => false

namespace Life

/-- What an event adds to the deliveries of a row. A delivery is one of the row that the transaction
of the worker deletes. -/
def delivered (life : Life α) : Event α → List (Delivery α)
  | .happened _ changes _ (.received job reception) =>
    if life.fate.isDeleted changes then [⟨job, reception⟩] else []
  | _ => []

def after (event : Event α) (life : Life α) : Life α :=
  ⟨life.toTicket.after event, life.deliveries ++ life.delivered event⟩

def enter (lives : List (Life α)) : Event α → List (Life α)
  | .enqueued number row => lives ++ [⟨⟨row, .waiting number 0⟩, []⟩]
  | event => lives.map (after event)

def ofEvents (events : List (Event α)) : List (Life α) := events.foldl enter []

@[simp] theorem ofEvents_append_singleton (events : List (Event α)) (event : Event α) :
    ofEvents (events ++ [event]) = enter (ofEvents events) event := by
  simp [ofEvents]

/-- The lives have the rows and fates of the ledger. -/
theorem map_toTicket_ofEvents (events : List (Event α)) :
    (ofEvents events).map toTicket = Ledger.ofEvents events := by
  induction events using List.reverseRecOn with
  | nil => rfl
  | append_singleton events event ih =>
    rw [ofEvents_append_singleton, Ledger.ofEvents_append_singleton, ← ih]
    cases event with
    | enqueued => simp [enter, Ledger.enter]
    | happened => simp [enter, Ledger.enter, after, Function.comp_def]

end Life

/-! ## Fates -/

theorem Fate.exists_waiting {fate : Fate} {number : Nat} (h : fate.queueNumber? = some number) :
    ∃ returns, fate = .waiting number returns := by
  cases fate with
  | waiting other returns => exact ⟨returns, by rw [← Option.some.inj h]⟩
  | done | leaving | archived | lost => cases h

theorem Fate.isDeleted_eq {changes : Changes} {number : Nat} (h : changes.deleted = [number])
    (fate : Fate) : fate.isDeleted changes = (fate.queueNumber? == some number) := by
  cases fate with
  | waiting other returns =>
    by_cases hsame : other = number <;> simp [isDeleted, queueNumber?, h, hsame]
  | done | leaving | archived | lost => rfl

theorem Fate.eq_leaving {fate : Fate} {worker : Nat} (h : fate.isLeaving worker = true) :
    fate = .leaving worker := by
  cases fate with
  | leaving other => rw [beq_iff_eq.1 h]
  | waiting | done | archived | lost => cases h

/-! ## Deliveries and fates -/

def Delivery.Recurs (duties : Duties α) (delivery : Delivery α) : Prop :=
  ∃ failure, delivery.reception.failure? = some failure ∧
    duties.settings.disposition delivery.job.details failure ≠ .archive

def Trial.delivery (trial : Trial α) : Delivery α := ⟨trial.job, trial.reception⟩

/-- What a delivery says about the row whose job it delivers: it is the next one after some others. -/
def Row.DeliversAs (duties : Duties α) (row : Row) (others : Nat) (job : Job α) : Prop :=
  duties.columns job = row.columns ∧ some job.details.tries = row.triesAfter (others + 1)

/-- How the fate of a row goes with its deliveries: the earlier ones, after which the row has been
given back, and the latest if there is one more. -/
inductive Fate.Follows (duties : Duties α) (archive : List (Nat × ArchivedRow))
    (trial? : Nat → Option (Trial α)) (row : Row) (earlier : List (Delivery α)) :
    Fate → List (Delivery α) → Prop where
  | waits {number : Nat} :
      (∀ worker trial, trial? worker = some trial → number ∉ trial.deleted) →
      Follows duties archive trial? row earlier (.waiting number earlier.length) []
  | tried {number worker : Nat} {trial : Trial α} :
      trial? worker = some trial → number ∈ trial.deleted →
      Follows duties archive trial? row earlier (.waiting number earlier.length) [trial.delivery]
  | done {job : Job α} :
      Follows duties archive trial? row earlier (.done (some .accepted)) [⟨job, .accepted⟩]
  | leaving {worker : Nat} {trial : Trial α} {failure : JobFailure} :
      trial? worker = some trial → trial.deleted = [] →
      trial.reception.failure? = some failure →
      duties.settings.disposition trial.job.details failure = .archive →
      Follows duties archive trial? row earlier (.leaving worker) [trial.delivery]
  | archived {number : Nat} {archivedRow : ArchivedRow} {delivery : Delivery α}
      {failure : JobFailure} :
      (number, archivedRow) ∈ archive → archivedRow.columns = row.columns →
      archivedRow.diagnosis = failure.diagnosis →
      delivery.reception.failure? = some failure →
      duties.settings.disposition delivery.job.details failure = .archive →
      Follows duties archive trial? row earlier (.archived number) [delivery]

/-- The deliveries of a row are what its tries and its fate say. -/
structure Life.Tracked (duties : Duties α) (archive : List (Nat × ArchivedRow))
    (trial? : Nat → Option (Trial α)) (life : Life α) : Prop where
  reads : ∀ i delivery, life.deliveries[i]? = some delivery →
    life.row.DeliversAs duties i delivery.job
  follows : ∃ earlier latest, life.deliveries = earlier ++ latest ∧
    (∀ delivery ∈ earlier, delivery.Recurs duties) ∧
    life.fate.Follows duties archive trial? life.row earlier latest

section Tracked

variable {archive archive' : List (Nat × ArchivedRow)} {trial? trial?' : Nat → Option (Trial α)}
  {life : Life α} {row : Row} {fate : Fate} {earlier latest : List (Delivery α)} {worker : Nat}
  {changes : Changes} {attempt : Attempt} {job : Job α} {failure : JobFailure}
  {reception : Reception}

/-- At most one delivery has yet to be settled. -/
theorem Fate.Follows.length_le (h : fate.Follows duties archive trial? row earlier latest) :
    latest.length ≤ 1 := by
  cases h <;> simp

/-- An attempt concerns only the row that its transaction deletes. -/
theorem Fate.Follows.frame (h : fate.Follows duties archive trial? row earlier latest)
    (hothers : ∀ j ≠ worker, trial?' j = trial? j) (harchive : archive ⊆ archive')
    (hstays : fate.isLeaving worker = false)
    (hbefore : ∀ trial number, trial? worker = some trial → fate.queueNumber? = some number →
      number ∉ trial.deleted)
    (hafter : ∀ trial number, trial?' worker = some trial → fate.queueNumber? = some number →
      number ∉ trial.deleted) :
    fate.Follows duties archive' trial?' row earlier latest := by
  cases h with
  | waits hfree =>
    refine .waits fun other trial htrial ↦ ?_
    by_cases hother : other = worker
    · exact hafter trial _ (hother ▸ htrial) rfl
    · exact hfree other trial ((hothers other hother).symm.trans htrial)
  | @tried number other trial htrial hnumber =>
    have hother : other ≠ worker := fun hsame ↦ hbefore trial number (hsame ▸ htrial) rfl hnumber
    exact .tried ((hothers other hother).trans htrial) hnumber
  | done => exact .done
  | @leaving other trial failure htrial hdeleted hfailure hdisposition =>
    have hother : other ≠ worker := by simpa [Fate.isLeaving] using hstays
    exact .leaving ((hothers other hother).trans htrial) hdeleted hfailure hdisposition
  | archived hmem hcolumns hdiagnosis hfailure hdisposition =>
    exact .archived (harchive hmem) hcolumns hdiagnosis hfailure hdisposition

namespace Life

/-- An event that is no delivery of a row leaves its deliveries as they are. -/
theorem after_of_delivered {event : Event α} (h : life.delivered event = []) :
    life.after event = ⟨life.toTicket.after event, life.deliveries⟩ := by
  rw [after, h, List.append_nil]

namespace Tracked

/-- What does not concern a row leaves its life as it is. -/
theorem frame (h : life.Tracked duties archive trial?) {event : Event α}
    (hfate : life.fate.after event = life.fate) (hdelivered : life.delivered event = [])
    (hothers : ∀ j ≠ worker, trial?' j = trial? j) (harchive : archive ⊆ archive')
    (hstays : life.fate.isLeaving worker = false)
    (hbefore : ∀ trial number, trial? worker = some trial → life.queueNumber? = some number →
      number ∉ trial.deleted)
    (hafter : ∀ trial number, trial?' worker = some trial → life.queueNumber? = some number →
      number ∉ trial.deleted) : (life.after event).Tracked duties archive' trial?' := by
  rw [after_of_delivered hdelivered, Ticket.after, hfate]
  obtain ⟨earlier, latest, hdeliveries, hrecurs, hfollows⟩ := h.follows
  exact ⟨h.reads, earlier, latest, hdeliveries, hrecurs,
    hfollows.frame hothers harchive hstays hbefore hafter⟩

variable {number returns : Nat}

/-- The job of a waiting row is received. -/
theorem receive (h : life.Tracked duties archive trial?) (hfate : life.fate = .waiting number returns)
    (hdeleted : number ∈ changes.deleted)
    (hfree : ∀ j trial, trial? j = some trial → number ∉ trial.deleted)
    (hafter : trial?' worker = some ⟨job, reception, changes.deleted⟩)
    (hreads : life.row.DeliversAs duties returns job) :
    (life.after (.happened worker changes attempt (.received job reception))).Tracked duties archive
      trial?' := by
  have hdelivered : life.delivered (.happened worker changes attempt (.received job reception)) =
      [⟨job, reception⟩] := by
    simp [delivered, hfate, Fate.isDeleted, hdeleted]
  obtain ⟨earlier, latest, hdeliveries, hrecurs, hfollows⟩ := h.follows
  rw [hfate] at hfollows
  cases hfollows with
  | tried htrial hnumber => exact absurd hnumber (hfree _ _ htrial)
  | waits =>
    rw [List.append_nil] at hdeliveries
    have hwaits : life.fate.Follows duties archive trial?' life.row life.deliveries
        [Trial.delivery ⟨job, reception, changes.deleted⟩] := by
      rw [hfate, hdeliveries]
      exact .tried hafter hdeleted
    refine ⟨fun i delivery hdelivery ↦ ?_, life.deliveries, _, ?_, hdeliveries ▸ hrecurs, hwaits⟩
    · rw [after, hdelivered] at hdelivery
      rcases Nat.lt_or_ge i life.deliveries.length with hlt | hge
      · rw [List.getElem?_append_left hlt] at hdelivery
        exact h.reads i delivery hdelivery
      · rw [List.getElem?_append_right hge, List.getElem?_singleton] at hdelivery
        split at hdelivery
        · next hlast =>
          have hi : i = earlier.length := by
            rw [hdeliveries] at hlast hge
            omega
          rw [← Option.some.inj hdelivery, hi]
          exact hreads
        · cases hdelivery
    · rw [after, hdelivered]
      rfl

/-- The latest delivery of a row that is held is the one that is under way. -/
theorem tried (h : life.Tracked duties archive trial?) (hfate : life.fate = .waiting number returns)
    {trial : Trial α} (htrial : trial? worker = some trial) (hnumber : number ∈ trial.deleted)
    (hapart : ∀ j other, trial? j = some other → number ∈ other.deleted → j = worker) :
    ∃ earlier, life.deliveries = earlier ++ [trial.delivery] ∧ earlier.length = returns ∧
      ∀ delivery ∈ earlier, delivery.Recurs duties := by
  obtain ⟨earlier, latest, hdeliveries, hrecurs, hfollows⟩ := h.follows
  rw [hfate] at hfollows
  cases hfollows with
  | waits hfree => exact absurd hnumber (hfree _ _ htrial)
  | @tried _ other trial' htrial' hnumber' =>
    obtain rfl := hapart other trial' htrial' hnumber'
    rw [htrial] at htrial'
    obtain rfl := Option.some.inj htrial'
    exact ⟨earlier, hdeliveries, rfl, hrecurs⟩

/-- The held row is removed because its job was accepted. -/
theorem accept (h : life.Tracked duties archive trial?) (hfate : life.fate = .waiting number returns)
    (hbefore : trial? worker = some ⟨job, .accepted, changes.deleted⟩)
    (hnumber : number ∈ changes.deleted)
    (hapart : ∀ j other, trial? j = some other → number ∈ other.deleted → j = worker)
    (hinserted : changes.inserted = []) (haccepted : attempt.reception? = some .accepted) :
    (life.after (.happened worker changes attempt (.accepted job))).Tracked duties archive'
      trial?' := by
  obtain ⟨earlier, hdeliveries, -, hrecurs⟩ := h.tried hfate hbefore hnumber hapart
  have hafter : life.fate.after (.happened worker changes attempt (.accepted job)) =
      .done (some .accepted) := by
    simp [hfate, Fate.after, Fate.commit, hnumber, hinserted, haccepted]
  rw [after_of_delivered rfl, Ticket.after, hafter]
  exact ⟨h.reads, earlier, _, hdeliveries, hrecurs, .done⟩

/-- The held row is replaced by one with a new number, and the delivery is not the last. -/
theorem giveBack (h : life.Tracked duties archive trial?)
    (hfate : life.fate = .waiting number returns)
    (hbefore : trial? worker = some ⟨job, reception, changes.deleted⟩)
    (hnumber : number ∈ changes.deleted)
    (hapart : ∀ j other, trial? j = some other → number ∈ other.deleted → j = worker)
    (hfailure : reception.failure? = some failure)
    (hdisposition : duties.settings.disposition job.details failure ≠ .archive) {new : Entry}
    (hinserted : changes.inserted = [new])
    (hnew : ∀ j trial, trial?' j = some trial → new.number ∉ trial.deleted) :
    (life.after (.happened worker changes attempt (.returned job failure))).Tracked duties archive'
      trial?' := by
  obtain ⟨earlier, hdeliveries, hlength, hrecurs⟩ := h.tried hfate hbefore hnumber hapart
  have hafter : life.fate.after (.happened worker changes attempt (.returned job failure)) =
      .waiting new.number (earlier ++ [(⟨job, reception⟩ : Delivery α)]).length := by
    simp [hfate, Fate.after, Fate.commit, hnumber, hinserted, hlength]
  rw [after_of_delivered rfl, Ticket.after, hafter]
  refine ⟨h.reads, earlier ++ [(⟨job, reception⟩ : Delivery α)], [], ?_,
    fun delivery hdelivery ↦ ?_, .waits hnew⟩
  · rw [List.append_nil]
    exact hdeliveries
  · rcases List.mem_append.1 hdelivery with hold | hlast
    · exact hrecurs delivery hold
    · rw [List.mem_singleton.1 hlast]
      exact ⟨failure, hfailure, hdisposition⟩

/-- The held row is removed in order to be archived. -/
theorem remove (h : life.Tracked duties archive trial?) (hfate : life.fate = .waiting number returns)
    (hbefore : trial? worker = some ⟨job, reception, changes.deleted⟩)
    (hnumber : number ∈ changes.deleted)
    (hapart : ∀ j other, trial? j = some other → number ∈ other.deleted → j = worker)
    (hfailure : reception.failure? = some failure)
    (hdisposition : duties.settings.disposition job.details failure = .archive)
    (hinserted : changes.inserted = []) (hafterwards : trial?' worker = some ⟨job, reception, []⟩) :
    (life.after (.happened worker changes attempt (.removed job failure))).Tracked duties archive'
      trial?' := by
  obtain ⟨earlier, hdeliveries, -, hrecurs⟩ := h.tried hfate hbefore hnumber hapart
  have hafter : life.fate.after (.happened worker changes attempt (.removed job failure)) =
      .leaving worker := by
    simp [hfate, Fate.after, Fate.commit, hnumber, hinserted]
  rw [after_of_delivered rfl, Ticket.after, hafter]
  exact ⟨h.reads, earlier, [Trial.delivery ⟨job, reception, []⟩], hdeliveries, hrecurs,
    .leaving hafterwards rfl hfailure hdisposition⟩

/-- The row that has left with a worker is archived. -/
theorem archive_job (h : life.Tracked duties archive trial?) (hfate : life.fate = .leaving worker)
    (hbefore : trial? worker = some ⟨job, reception, changes.deleted⟩)
    (hfailure : reception.failure? = some failure) {failedAt : Instant}
    (harchived : changes.archived = [(number, duties.archivedRow job failure failedAt)])
    (hmem : (number, duties.archivedRow job failure failedAt) ∈ archive') :
    (life.after (.happened worker changes attempt (.archived job failure))).Tracked duties archive'
      trial?' := by
  obtain ⟨earlier, latest, hdeliveries, hrecurs, hfollows⟩ := h.follows
  have hafter : life.fate.after (.happened worker changes attempt (.archived job failure)) =
      .archived number := by
    simp [hfate, Fate.after, Fate.depart, Fate.isLeaving, harchived]
  rw [after_of_delivered rfl, Ticket.after, hafter]
  rw [hfate] at hfollows
  cases hfollows with
  | @leaving _ trial failure' htrial _ hfailure' hdisposition =>
    rw [hbefore] at htrial
    obtain rfl := Option.some.inj htrial
    have hsame : failure' = failure := Option.some.inj (hfailure'.symm.trans hfailure)
    subst hsame
    have hlast : life.deliveries[earlier.length]? = some ⟨job, reception⟩ := by
      rw [hdeliveries]
      simp [Trial.delivery]
    have hcolumns : (duties.archivedRow job failure' failedAt).columns = life.row.columns :=
      (h.reads _ _ hlast).1
    exact ⟨h.reads, earlier, _, hdeliveries, hrecurs,
      .archived hmem hcolumns rfl hfailure hdisposition⟩

/-- A row that is leaving with a worker is not held by its attempt any more. -/
theorem isLeaving_eq_false (h : life.Tracked duties archive trial?)
    (hheld : ∀ trial, trial? worker = some trial → trial.deleted ≠ []) :
    life.fate.isLeaving worker = false := by
  obtain ⟨earlier, latest, -, -, hfollows⟩ := h.follows
  generalize life.fate = fate at hfollows ⊢
  cases hfollows with
  | waits | tried | done | archived => rfl
  | @leaving other trial failure htrial hdeleted =>
    have hother : other ≠ worker := fun hsame ↦ hheld trial (hsame ▸ htrial) hdeleted
    simpa [Fate.isLeaving] using hother

/-- A commit of an attempt concerns the row that it deletes and no other. -/
theorem commit (h : life.Tracked duties archive trial?) {event : Event α} {otherwise : Fate}
    (hfate : life.fate.after event = life.fate.commit changes otherwise)
    (hdelivered : life.delivered event = []) (hdeleted : changes.deleted = [number])
    (hothers : ∀ j ≠ worker, trial?' j = trial? j) (harchive : archive ⊆ archive')
    (hbefore : trial? worker = some ⟨job, reception, changes.deleted⟩)
    (hafter : ∀ trial, trial?' worker = some trial → trial.deleted = [])
    (hconcerned : ∀ returns, life.fate = .waiting number returns →
      (life.after event).Tracked duties archive' trial?') :
    (life.after event).Tracked duties archive' trial?' := by
  by_cases hnumber : life.queueNumber? = some number
  · obtain ⟨returns, hwaiting⟩ := Fate.exists_waiting hnumber
    exact hconcerned returns hwaiting
  · have hstays : life.fate.isLeaving worker = false := by
      apply h.isLeaving_eq_false
      intro trial htrial
      rw [hbefore] at htrial
      rw [← Option.some.inj htrial, hdeleted]
      exact List.cons_ne_nil _ _
    refine h.frame (hfate.trans (Balanced.commit_eq_self hdeleted hnumber)) hdelivered hothers
      harchive hstays (fun trial other htrial hother hmem ↦ ?_) fun trial other htrial _ ↦ ?_
    · rw [hbefore] at htrial
      rw [← Option.some.inj htrial, hdeleted, List.mem_singleton] at hmem
      exact hnumber (hmem ▸ hother)
    · rw [hafter trial htrial]
      exact List.not_mem_nil

end Tracked

end Life

end Tracked

end TableQueue
