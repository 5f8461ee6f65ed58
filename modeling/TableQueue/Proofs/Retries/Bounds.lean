import TableQueue.Proofs.Retries.Lives

/-!
# How often a job is delivered

In a steady run without deduplication each delivery of a row counts one try more than the one before.
The deliveries go on until the first that is accepted or fatal or that uses up the tries, and they
end there; what has become of the row then is in the tables. How long a row waits for its next
delivery is not the subject here.
-/

open scoped List

namespace TableQueue

variable {α : Type} {duties : Duties α}

/-! ## Every step -/

theorem Store.Commits.changes_eq {store store' : Store} {session : Nat} {changes : Changes}
    (h : store.Commits session changes store') :
    (store.transaction session).changes = changes := by
  obtain ⟨savepoint, hactive⟩ := h.active
  rw [hactive]
  rfl

theorem Store.Commits.archive_subset {store store' : Store} {session : Nat} {changes : Changes}
    (h : store.Commits session changes store') : store.archive ⊆ store'.archive := by
  rw [h.archive]
  exact fun _ hmem ↦ Store.mem_placeAll.2 (.inl hmem)

/-- The job that was read from a waiting row is delivered as the next one. -/
theorem Balanced.deliversAs {events : List (Event α)} {store : Store}
    {departing : Nat → Option (Job α)}
    (h : Balanced duties events (Ledger.ofEvents events) store departing)
    (hcodec : duties.codec.PreservesEnqueued events) (halone : duties.deduplicator = none)
    (hnodup : (store.queue.map Entry.number).Nodup) {ticket : Ticket}
    (hticket : ticket ∈ Ledger.ofEvents events) {job : Job α} {entry : Entry} {merged : List Row}
    (hholds : store.Holds duties merged job entry) {returns : Nat}
    (hfate : ticket.fate = .waiting entry.number returns) :
    ticket.row.DeliversAs duties returns job := by
  have hwaits := h.holds ticket hticket
  rw [hfate] at hwaits
  obtain ⟨other, hother, hnumber, hcolumns, htries⟩ := hwaits
  obtain rfl : other = entry := List.inj_on_of_nodup_map hnodup hother hholds.mem hnumber
  constructor
  · exact (h.columns_eq hcodec halone hnodup hholds).trans hcolumns
  · calc some job.details.tries = other.row.tries.map JobMeta.nextTry := hholds.renders.tries_eq
      _ = (ticket.row.triesAfter returns).map JobMeta.nextTry := by rw [htries]
      _ = ticket.row.triesAfter (returns + 1) := by
        rw [Row.triesAfter, Row.triesAfter, Function.iterate_succ', ← Option.map_map]

theorem Life.toTicket_mem {events : List (Event α)} {life : Life α}
    (h : life ∈ Life.ofEvents events) : life.toTicket ∈ Ledger.ofEvents events := by
  rw [← Life.map_toTicket_ofEvents]
  exact List.mem_map_of_mem h

section Balanced

variable {events : List (Event α)} {store : Store} {departing : Nat → Option (Job α)}

/-- The rows of the queue are those of the lives that wait. -/
theorem Balanced.lives_queue (h : Balanced duties events (Ledger.ofEvents events) store departing) :
    store.queue.map Entry.number ~
      (Life.ofEvents events).filterMap fun life ↦ life.queueNumber? := by
  have hqueue := h.queue
  rw [← Life.map_toTicket_ofEvents, List.filterMap_map] at hqueue
  exact hqueue

/-- The archived rows are those of the lives that ended there. -/
theorem Balanced.lives_archive
    (h : Balanced duties events (Ledger.ofEvents events) store departing) :
    store.archive.map Prod.fst ~
      (Life.ofEvents events).filterMap fun life ↦ life.archiveNumber? := by
  have harchive := h.archive
  rw [← Life.map_toTicket_ofEvents, List.filterMap_map] at harchive
  exact harchive

end Balanced

namespace World

variable {world : World duties} {events : List (Event α)}

/-- Every life has the deliveries that its tries and its fate say. -/
def TracksLives (world : World duties) (events : List (Event α)) : Prop :=
  ∀ life ∈ Life.ofEvents events, life.Tracked duties world.server.store.archive world.trial?

section Happened

variable {world' : World duties} {worker session : Nat} {changes : Changes} {attempt : Attempt}
  {job : Job α} {failure : JobFailure} {reception : Reception} {life : Life α} {number : Nat}

/-- Only the attempt of one worker holds a row that it holds. -/
theorem Sound.eq_of_held (hsound : world.Sound) {trial : Trial α}
    (htrial : world.trial? worker = some trial) (hnumber : number ∈ trial.deleted) (j : Nat)
    (other : Trial α) (hother : world.trial? j = some other) (hmem : number ∈ other.deleted) :
    j = worker :=
  hsound.eq_of_trial? hother htrial hmem hnumber

/-- A delivery is the next one in the life of its row. -/
theorem TracksLives.received (h : world.TracksLives events)
    (hcodec : duties.codec.PreservesEnqueued events) (halone : duties.deduplicator = none)
    (hbalanced : Balanced duties events (Ledger.ofEvents events) world.server.store world.departing?)
    (hsound : world.Sound) (hsound' : world'.Sound)
    (harchive : world'.server.store.archive = world.server.store.archive) {entry : Entry}
    (hholds : world.server.store.Holds duties [] job entry)
    (hdeleted : changes.deleted = [entry.number]) (hbefore : world.trial? worker = none)
    (hafter : world'.trial? worker = some ⟨job, reception, changes.deleted⟩)
    (hothers : ∀ j ≠ worker, world'.trial? j = world.trial? j)
    (hlife : life ∈ Life.ofEvents events) :
    (life.after (.happened worker changes attempt (.received job reception))).Tracked duties
      world'.server.store.archive world'.trial? := by
  have htracked := h life hlife
  have hmem : entry.number ∈ changes.deleted := by simp [hdeleted]
  rw [harchive]
  by_cases hnumber : life.queueNumber? = some entry.number
  · obtain ⟨returns, hfate⟩ := Fate.exists_waiting hnumber
    have hnodup : (world.server.store.queue.map Entry.number).Nodup :=
      (List.nodup_append.1 hsound.server.store.nodup).1
    refine htracked.receive hfate hmem (fun j trial htrial hheld ↦ ?_) hafter
      (hbalanced.deliversAs hcodec halone hnodup (Life.toTicket_mem hlife) hholds hfate)
    by_cases hj : j = worker
    · rw [hj, hbefore] at htrial
      cases htrial
    · exact hj (hsound'.eq_of_held hafter hmem j trial ((hothers j hj).trans htrial) hheld)
  · have hnot : life.fate.isDeleted changes = false := by
      rw [Fate.isDeleted_eq hdeleted]
      exact beq_eq_false_iff_ne.2 hnumber
    refine htracked.frame rfl (by simp [Life.delivered, hnot]) hothers (List.Subset.refl _)
      (htracked.isLeaving_eq_false fun trial htrial ↦ ?_) (fun trial _ htrial ↦ ?_)
      fun trial other htrial hother ↦ ?_
    · rw [hbefore] at htrial
      cases htrial
    · rw [hbefore] at htrial
      cases htrial
    · rw [hafter] at htrial
      rw [← Option.some.inj htrial, hdeleted, List.mem_singleton]
      rintro rfl
      exact hnumber hother

/-- The number of a row that a worker inserts is held by no attempt. -/
theorem Sound.not_held_of_inserted (hsound : world.Sound) (hconnected : world.isConnected)
    {store : Store} (hcommits : world.server.store.Commits session changes store) {new : Entry}
    (hinserted : new ∈ changes.inserted) (hafter : world'.trial? worker = none)
    (hothers : ∀ j ≠ worker, world'.trial? j = world.trial? j) (j : Nat) (trial : Trial α)
    (htrial : world'.trial? j = some trial) : new.number ∉ trial.deleted := by
  intro hnew
  by_cases hj : j = worker
  · rw [hj, hafter] at htrial
    cases htrial
  · obtain ⟨old, hold, hsame⟩ := List.mem_map.1
      (hsound.mem_queue_of_trial? hconnected ((hothers j hj).symm.trans htrial) hnew)
    exact hcommits.ne_of_inserted hsound.server.store hinserted hold hsame.symm

/-- An archived job is that of the life which was leaving with its worker. -/
theorem TracksLives.archived (h : world.TracksLives events)
    (hcommits : world.server.store.Commits session changes world'.server.store)
    (hfailure : reception.failure? = some failure) (hdeleted : changes.deleted = [])
    {failedAt : Instant}
    (harchived : changes.archived = [(number, duties.archivedRow job failure failedAt)])
    (hbefore : world.trial? worker = some ⟨job, reception, changes.deleted⟩)
    (hafter : world'.trial? worker = none)
    (hothers : ∀ j ≠ worker, world'.trial? j = world.trial? j)
    (hlife : life ∈ Life.ofEvents events) :
    (life.after (.happened worker changes attempt (.archived job failure))).Tracked duties
      world'.server.store.archive world'.trial? := by
  have htracked := h life hlife
  cases hleaves : life.fate.isLeaving worker with
  | true =>
    refine htracked.archive_job (Fate.eq_leaving hleaves) hbefore hfailure harchived ?_
    rw [hcommits.archive, harchived]
    exact Store.mem_placeAll.2 (.inr (List.mem_singleton.2 rfl))
  | false =>
    have hfate : life.fate.after (.happened worker changes attempt (.archived job failure)) =
        life.fate := by
      simp [Fate.after, harchived, Fate.depart, hleaves]
    refine htracked.frame hfate rfl hothers hcommits.archive_subset hleaves
      (fun trial _ htrial _ ↦ ?_) fun trial _ htrial _ ↦ ?_
    · rw [hbefore] at htrial
      rw [← Option.some.inj htrial, hdeleted]
      exact List.not_mem_nil
    · rw [hafter] at htrial
      cases htrial

/-- Whatever happens to a job, its life remains tracked. -/
theorem TracksLives.happened (h : world.TracksLives events)
    (hcodec : duties.codec.PreservesEnqueued events) (halone : duties.deduplicator = none)
    (hbalanced : Balanced duties events (Ledger.ofEvents events) world.server.store world.departing?)
    (hsound : world.Sound) (hsound' : world'.Sound) (hconnected : world.isConnected)
    {happening : Happening α}
    (hchanges : (world.server.store.transaction session).changes = changes)
    {before after : Option (Job α)}
    (houtcome : Outcome duties world.server.store world'.server.store attempt session
      (some happening) before after)
    (htries : Tries duties world.server.store changes.deleted (some happening) (world.trial? worker)
      (world'.trial? worker))
    (hothers : ∀ j ≠ worker, world'.trial? j = world.trial? j)
    (hlife : life ∈ Life.ofEvents events) :
    (life.after (.happened worker changes attempt happening)).Tracked duties
      world'.server.store.archive world'.trial? := by
  have htracked := h life hlife
  generalize hbefore : world.trial? worker = trial? at htries
  generalize hafter : world'.trial? worker = trial?' at htries
  have hsettled (hnone : trial?' = none) (trial : Trial α)
      (htrial : world'.trial? worker = some trial) : trial.deleted = [] := by
    rw [hafter, hnone] at htrial
    cases htrial
  cases houtcome with
  | received hstore =>
    cases htries with
    | received hholds hdeleted =>
      exact h.received hcodec halone hbalanced hsound hsound' (congrArg Store.archive hstore) hholds
        hdeleted hbefore hafter hothers hlife
  | @accepted job committed entry taken haccepted hcommits hholds _ _ hrows hdeleted hinserted =>
    obtain rfl := hcommits.changes_eq.symm.trans hchanges
    cases htries with
    | accepted =>
      have hempty := hrows.trans (hholds.renders.alone halone)
      rw [List.map_eq_nil_iff.1 hempty, List.map_nil] at hdeleted
      have hmem : entry.number ∈ committed.deleted := by simp [hdeleted]
      exact htracked.commit rfl rfl hdeleted hothers hcommits.archive_subset hbefore (hsettled rfl)
        fun _ hfate ↦ htracked.accept hfate hbefore hmem (hsound.eq_of_held hbefore hmem) hinserted
          haccepted
  | @returned job failure committed entry new _ _ hcommits hholds _ hdeleted hinserted =>
    obtain rfl := hcommits.changes_eq.symm.trans hchanges
    cases htries with
    | returned hfailure hdisposition =>
      have hmem : entry.number ∈ committed.deleted := by simp [hdeleted]
      have hnew : new ∈ committed.inserted := by simp [hinserted]
      exact htracked.commit rfl rfl hdeleted hothers hcommits.archive_subset hbefore (hsettled rfl)
        fun _ hfate ↦ htracked.giveBack hfate hbefore hmem (hsound.eq_of_held hbefore hmem) hfailure
          hdisposition hinserted (hsound.not_held_of_inserted hconnected hcommits hnew hafter hothers)
  | @removed job failure committed entry _ hcommits hholds hdeleted hinserted =>
    obtain rfl := hcommits.changes_eq.symm.trans hchanges
    cases htries with
    | removed hfailure hdisposition hempty =>
      subst hempty
      have hmem : entry.number ∈ committed.deleted := by simp [hdeleted]
      refine htracked.commit rfl rfl hdeleted hothers hcommits.archive_subset hbefore
        (fun trial htrial ↦ ?_) fun _ hfate ↦ htracked.remove hfate hbefore hmem
          (hsound.eq_of_held hbefore hmem) hfailure hdisposition hinserted hafter
      rw [hafter] at htrial
      rw [← Option.some.inj htrial]
  | @archived job failure committed number failedAt hcommits hdeleted _ harchived =>
    obtain rfl := hcommits.changes_eq.symm.trans hchanges
    cases htries with
    | archived hfailure _ =>
      exact h.archived hcommits hfailure hdeleted harchived hbefore hafter hothers hlife
  | lost => cases htries

end Happened

/-- Every steady move keeps track of the lives. -/
theorem TracksLives.step (h : world.TracksLives events)
    (hcodec : duties.codec.PreservesEnqueued events) (halone : duties.deduplicator = none)
    (hbalanced : Balanced duties events (Ledger.ofEvents events) world.server.store world.departing?)
    (hsound : world.Sound) (hconnected : world.isConnected)
    (hdisposed : ∀ member ∈ world.members, member.worker.point.Disposed duties) {move : Move}
    (hsteady : world.isSteady move) :
    (world.step move).TracksLives (events ++ (world.event? move).toList) := by
  have heffect := hsound.effect move
  have hadvances := hsound.advances halone hdisposed hconnected hsteady
  have hsound' := hsound.step move
  generalize world.event? move = event? at heffect hadvances ⊢
  generalize world.step move = world' at heffect hadvances hsound' ⊢
  cases heffect with
  | none htables =>
    cases hadvances with
    | none hsame =>
      intro life hlife
      rw [Option.toList_none, List.append_nil] at hlife
      rw [funext hsame, htables.archive]
      exact h life hlife
  | enqueued hstore =>
    cases hadvances with
    | @enqueued _ row hsame =>
      intro life hlife
      rw [Option.toList_some, Life.ofEvents_append_singleton] at hlife
      rw [funext hsame, hstore]
      rcases List.mem_append.1 hlife with hold | hnew
      · exact h life hold
      · rw [List.mem_singleton.1 hnew]
        refine ⟨fun _ _ hnone ↦ (nomatch hnone), [], [], rfl, fun _ hnone ↦ (nomatch hnone),
          .waits fun worker trial htrial hnumber ↦ ?_⟩
        have hqueue := hsound.mem_queue_of_trial? hconnected htrial hnumber
        exact Nat.lt_irrefl _ (hsound.server.store.lt _ (List.mem_append_left _ hqueue))
  | happened hchanges houtcome =>
    cases hadvances with
    | happened htries hothers =>
      intro life hlife
      rw [Option.toList_some, Life.ofEvents_append_singleton] at hlife
      obtain ⟨old, hold, rfl⟩ := List.mem_map.1 hlife
      exact h.happened hcodec halone hbalanced hsound hsound' hconnected hchanges houtcome htries
        hothers hold

/-- Lives are kept track of throughout a steady run. -/
theorem tracksLives_of_run (halone : duties.deduplicator = none) {workers : Nat} {shared : Shared}
    {now : Instant} {past : Past duties} (hcodec : duties.codec.PreservesEnqueued past.events)
    (run : Run (fun world move ↦ world.isSteady move) (World.initial duties workers shared now) past
      world) : world.TracksLives past.events := by
  induction run with
  | rest => exact fun _ hnone ↦ nomatch hnone
  | move run' hsteady ih =>
    rw [Past.events_cons] at hcodec ⊢
    have hbalanced := balanced_of_run halone hcodec.of_append (run'.mono fun _ _ _ ↦ trivial)
    exact (ih hcodec.of_append).step hcodec.of_append halone hbalanced (Sound.of_run run')
      (isConnected_of_run run') (disposed_of_run run') hsteady

end World

/-! ## Every delivery is one of one row -/

namespace Life

theorem flatMap_deliveries_received (lives : List (Life α)) (worker : Nat) (changes : Changes)
    (attempt : Attempt) (job : Job α) (reception : Reception) :
    (lives.map (after (.happened worker changes attempt (.received job reception)))).flatMap
        deliveries ~
      lives.flatMap deliveries ++
        List.replicate (lives.countP (·.fate.isDeleted changes)) ⟨job, reception⟩ := by
  induction lives with
  | nil => exact List.Perm.refl _
  | cons life rest ih =>
    rw [List.map_cons, List.flatMap_cons, List.flatMap_cons, after]
    cases hdeleted : life.fate.isDeleted changes with
    | false =>
      have hcount : (life :: rest).countP (·.fate.isDeleted changes) =
          rest.countP (·.fate.isDeleted changes) := List.countP_cons_of_neg (by simp [hdeleted])
      have hdelivered : life.delivered (.happened worker changes attempt (.received job reception)) =
          [] := by simp [delivered, hdeleted]
      rw [hcount, hdelivered, List.append_nil, List.append_assoc]
      exact ih.append_left _
    | true =>
      have hcount : (life :: rest).countP (·.fate.isDeleted changes) =
          rest.countP (·.fate.isDeleted changes) + 1 := List.countP_cons_of_pos hdeleted
      have hdelivered : life.delivered (.happened worker changes attempt (.received job reception)) =
          [⟨job, reception⟩] := by simp [delivered, hdeleted]
      rw [hcount, hdelivered, List.replicate_succ, List.append_assoc, List.append_assoc,
        List.singleton_append]
      exact ((ih.cons _).trans List.perm_middle.symm).append_left _

theorem flatMap_deliveries_of_delivered {event : Event α} (lives : List (Life α))
    (h : ∀ life : Life α, life.delivered event = []) :
    (lives.map (after event)).flatMap deliveries = lives.flatMap deliveries := by
  rw [List.flatMap_map]
  exact List.flatMap_congr fun life _ ↦ by rw [after, h, List.append_nil]

/-- Exactly one row waits under the number of a committed row. -/
theorem countP_isDeleted {events : List (Event α)} {store : Store}
    {departing : Nat → Option (Job α)} {changes : Changes} {entry : Entry}
    (h : Balanced duties events (Ledger.ofEvents events) store departing)
    (hnodup : (store.queue.map Entry.number).Nodup) (hentry : entry ∈ store.queue)
    (hdeleted : changes.deleted = [entry.number]) :
    (ofEvents events).countP (·.fate.isDeleted changes) = 1 := by
  calc (ofEvents events).countP (·.fate.isDeleted changes)
      = (ofEvents events).countP fun life ↦ life.queueNumber? == some entry.number :=
        List.countP_congr fun life _ ↦ by rw [Fate.isDeleted_eq hdeleted]; rfl
    _ = ((ofEvents events).filterMap fun life ↦ life.queueNumber?).count entry.number :=
        List.count_filterMap.symm
    _ = (store.queue.map Entry.number).count entry.number := (h.lives_queue.count_eq _).symm
    _ = 1 := List.count_eq_one_of_mem hnodup (List.mem_map_of_mem hentry)

end Life

namespace World

variable {world : World duties} {events : List (Event α)}

theorem deliveries_step (halone : duties.deduplicator = none)
    (hbalanced : Balanced duties events (Ledger.ofEvents events) world.server.store world.departing?)
    (hsound : world.Sound) (hconnected : world.isConnected)
    (hdisposed : ∀ member ∈ world.members, member.worker.point.Disposed duties) {move : Move}
    (hsteady : world.isSteady move)
    (h : (Life.ofEvents events).flatMap Life.deliveries ~ events.filterMap Event.delivery?) :
    (Life.ofEvents (events ++ (world.event? move).toList)).flatMap Life.deliveries ~
      (events ++ (world.event? move).toList).filterMap Event.delivery? := by
  have hadvances := hsound.advances halone hdisposed hconnected hsteady
  generalize world.event? move = event? at hadvances ⊢
  generalize world.step move = world' at hadvances
  cases event? with
  | none =>
    rw [Option.toList_none, List.append_nil]
    exact h
  | some event =>
    rw [Option.toList_some, Life.ofEvents_append_singleton, List.filterMap_append]
    cases hadvances with
    | @enqueued number row =>
      have hnone : [(.enqueued number row : Event α)].filterMap Event.delivery? = [] := rfl
      rw [hnone]
      simpa [Life.enter] using h
    | @happened worker changes attempt happening htries =>
      have hquiet (hnone : ∀ life : Life α,
          life.delivered (.happened worker changes attempt happening) = [])
          (hdelivery : (Event.happened worker changes attempt happening).delivery? = none) :
          (Life.enter (Life.ofEvents events) (.happened worker changes attempt happening)).flatMap
              Life.deliveries ~
            events.filterMap Event.delivery? ++
              [Event.happened worker changes attempt happening].filterMap Event.delivery? := by
        change ((Life.ofEvents events).map (Life.after _)).flatMap Life.deliveries ~ _
        rw [Life.flatMap_deliveries_of_delivered _ hnone]
        simpa [hdelivery] using h
      generalize world.trial? worker = before at htries
      generalize world'.trial? worker = after at htries
      cases htries with
      | accepted | returned | removed | archived => exact hquiet (fun _ ↦ rfl) rfl
      | @received job reception entry hholds hdeleted =>
        have hnodup : (world.server.store.queue.map Entry.number).Nodup :=
          (List.nodup_append.1 hsound.server.store.nodup).1
        have hreceived := Life.flatMap_deliveries_received (Life.ofEvents events) worker changes
          attempt job reception
        rw [Life.countP_isDeleted hbalanced hnodup hholds.mem hdeleted] at hreceived
        exact hreceived.trans (h.append_right _)

/-- The deliveries of a steady run are those of its lives, each once. -/
theorem deliveries_of_run (halone : duties.deduplicator = none) {workers : Nat} {shared : Shared}
    {now : Instant} {past : Past duties} (hcodec : duties.codec.PreservesEnqueued past.events)
    (run : Run (fun world move ↦ world.isSteady move) (World.initial duties workers shared now) past
      world) :
    (Life.ofEvents past.events).flatMap Life.deliveries ~
      past.events.filterMap Event.delivery? := by
  induction run with
  | rest => exact List.Perm.refl _
  | move run' hsteady ih =>
    rw [Past.events_cons] at hcodec ⊢
    have hbalanced := balanced_of_run halone hcodec.of_append (run'.mono fun _ _ _ ↦ trivial)
    exact deliveries_step halone hbalanced (Sound.of_run run') (isConnected_of_run run')
      (disposed_of_run run') hsteady (ih hcodec.of_append)

end World

/-! ## The number of deliveries -/

def Reception.isFinal : Reception → Bool
  | accepted | rejected (.fatal ..) => true
  | rejected (.retryable _) | rejected (.postponed ..) | died _ => false

/-- The number of the delivery after which a row that was enqueued with some tries is archived
whatever its failure. -/
def Settings.lastDelivery (settings : Settings) (stored : Int) : Int :=
  max 1 (settings.maxTries - stored)

/-- The counter of tries goes up by one until it is as large as it can be. -/
theorem JobMeta.iterate_nextTry (stored : Int) (returns : Nat) :
    nextTry^[returns + 1] stored = min maxTries (stored + returns + 1) := by
  induction returns with
  | zero => simp [nextTry]
  | succ returns ih =>
    rw [Function.iterate_succ_apply', ih, nextTry, Nat.cast_succ]
    omega

theorem Row.triesAfter_succ {row : Row} {stored : Int} (h : row.tries = some stored)
    (returns : Nat) :
    row.triesAfter (returns + 1) = some (min JobMeta.maxTries (stored + returns + 1)) := by
  rw [triesAfter, h, Option.map_some, JobMeta.iterate_nextTry]

/-- A failed job is archived if the failure is fatal or the tries are used up. -/
theorem Reception.disposition_eq_archive_iff {reception : Reception} {failure : JobFailure}
    (h : reception.failure? = some failure) (settings : Settings) (details : JobMeta) :
    settings.disposition details failure = .archive ↔
      reception.isFinal = true ∨ settings.maxTries ≤ details.tries := by
  unfold Settings.disposition
  split
  · next hused => simp [hused]
  · next hleft =>
    rcases reception with _ | failure' | text?
    · cases h
    · obtain rfl := Option.some.inj h
      cases failure' <;> simp [isFinal, hleft]
    · obtain ⟨cause, rfl⟩ : ∃ cause, failure = .retryable cause := by
        cases text? <;> exact ⟨_, (Option.some.inj h).symm⟩
      simp [isFinal, hleft]

namespace Life

/-- A worker has the outcome of the latest delivery of a row still to settle. -/
def IsWith (world : World duties) (worker : Nat) (life : Life α) : Prop :=
  ∃ trial, world.trial? worker = some trial ∧ life.deliveries.getLast? = some trial.delivery ∧
    (life.fate = .leaving worker ∨ ∃ number ∈ trial.deleted, life.queueNumber? = some number)

inductive Settled (store : Store) (lastDelivery : Int) (life : Life α) : Prop where
  /-- It waits for its next delivery. -/
  | waiting {number : Nat} {entry : Entry} :
      (∀ delivery, life.deliveries.getLast? = some delivery → delivery.reception.isFinal = false) →
      life.deliveries.length < lastDelivery →
      life.fate = .waiting number life.deliveries.length →
      entry ∈ store.queue → entry.number = number → entry.row.columns = life.row.columns →
      entry.row.tries = life.row.triesAfter life.deliveries.length → Settled store lastDelivery life
  | accepted {job : Job α} : life.deliveries.getLast? = some ⟨job, .accepted⟩ →
      life.fate = .done (some .accepted) → Settled store lastDelivery life
  | archived {delivery : Delivery α} {failure : JobFailure} {number : Nat}
      {archivedRow : ArchivedRow} : life.deliveries.getLast? = some delivery →
      delivery.reception.failure? = some failure →
      delivery.reception.isFinal = true ∨ lastDelivery ≤ life.deliveries.length →
      life.fate = .archived number → (number, archivedRow) ∈ store.archive →
      archivedRow.columns = life.row.columns → archivedRow.diagnosis = failure.diagnosis →
      Settled store lastDelivery life

/-- How often and how the job of a row is delivered that was enqueued with some tries. -/
structure Unfolds (duties : Duties α) (world : World duties) (stored : Int) (life : Life α) :
    Prop where
  /-- Each delivery counts one try more than the one before, and keeps the columns of the row. -/
  delivers : ∀ (i : Nat) (delivery : Delivery α), life.deliveries[i]? = some delivery →
    delivery.job.details.tries = min JobMeta.maxTries (stored + i + 1) ∧
      duties.columns delivery.job = life.row.columns
  /-- A delivery that is accepted or fatal or uses up the tries is the last one. -/
  stops : ∀ (i : Nat) (delivery : Delivery α), life.deliveries[i]? = some delivery →
    delivery.reception.isFinal = true ∨ duties.settings.lastDelivery stored ≤ i + 1 →
      life.deliveries.length = i + 1
  /-- Any other one leads to the next, and what became of the row after the last is in the tables. -/
  settles : (∃ worker, life.IsWith world worker) ∨
    life.Settled world.server.store (duties.settings.lastDelivery stored)

end Life

namespace Life.Tracked

variable {life : Life α} {archive : List (Nat × ArchivedRow)} {trial? : Nat → Option (Trial α)}
  {stored : Int}

/-- The tries that a delivery shows are those of its row and of the deliveries before it. -/
theorem tries_eq (h : life.Tracked duties archive trial?) (hstored : life.row.tries = some stored)
    {i : Nat} {delivery : Delivery α} (hdelivery : life.deliveries[i]? = some delivery) :
    delivery.job.details.tries = min JobMeta.maxTries (stored + i + 1) := by
  have htries := (h.reads i delivery hdelivery).2
  rw [Row.triesAfter_succ hstored] at htries
  exact Option.some.inj htries

/-- The tries are used up with the last delivery, and not before. -/
theorem maxTries_le_iff (h : life.Tracked duties archive trial?)
    (hmax : duties.settings.maxTries ≤ JobMeta.maxTries) (hstored : life.row.tries = some stored)
    {i : Nat} {delivery : Delivery α} (hdelivery : life.deliveries[i]? = some delivery) :
    duties.settings.maxTries ≤ delivery.job.details.tries ↔
      duties.settings.lastDelivery stored ≤ i + 1 := by
  rw [h.tries_eq hstored hdelivery, Settings.lastDelivery]
  omega

/-- A delivery after which the job is given back is neither final nor the last. -/
theorem of_recurs (h : life.Tracked duties archive trial?)
    (hmax : duties.settings.maxTries ≤ JobMeta.maxTries) (hstored : life.row.tries = some stored)
    {i : Nat} {delivery : Delivery α} (hdelivery : life.deliveries[i]? = some delivery)
    (hrecurs : delivery.Recurs duties) :
    delivery.reception.isFinal = false ∧ i + 1 < duties.settings.lastDelivery stored := by
  obtain ⟨failure, hfailure, hdisposition⟩ := hrecurs
  rw [ne_eq, Reception.disposition_eq_archive_iff hfailure, h.maxTries_le_iff hmax hstored hdelivery,
    not_or] at hdisposition
  exact ⟨by simpa using hdisposition.1, Int.not_le.1 hdisposition.2⟩

/-- After the last delivery, or one that is final, a job is not delivered again. -/
theorem stops (h : life.Tracked duties archive trial?)
    (hmax : duties.settings.maxTries ≤ JobMeta.maxTries) (hstored : life.row.tries = some stored)
    {i : Nat} {delivery : Delivery α} (hdelivery : life.deliveries[i]? = some delivery)
    (hlast : delivery.reception.isFinal = true ∨ duties.settings.lastDelivery stored ≤ i + 1) :
    life.deliveries.length = i + 1 := by
  obtain ⟨earlier, latest, hdeliveries, hrecurs, hfollows⟩ := h.follows
  have hlatest := hfollows.length_le
  have hlt := (List.getElem?_eq_some_iff.1 hdelivery).1
  have hlength : life.deliveries.length = earlier.length + latest.length := by
    rw [hdeliveries, List.length_append]
  rcases Nat.lt_or_ge i earlier.length with hearlier | hge
  · have hmem : delivery ∈ earlier := by
      rw [hdeliveries, List.getElem?_append_left hearlier] at hdelivery
      exact List.mem_of_getElem? hdelivery
    obtain ⟨hfinal, hbefore⟩ := h.of_recurs hmax hstored hdelivery (hrecurs delivery hmem)
    rcases hlast with hlast | hlast
    · rw [hfinal] at hlast
      cases hlast
    · exact absurd hlast (Int.not_le.2 hbefore)
  · omega

/-- A row whose deliveries have all been given back waits for the next one. -/
theorem settled_of_waiting (h : life.Tracked duties archive trial?)
    (hmax : duties.settings.maxTries ≤ JobMeta.maxTries) (hstored : life.row.tries = some stored)
    {events : List (Event α)} {store : Store} {number : Nat}
    (hfate : life.fate = .waiting number life.deliveries.length)
    (hholds : life.fate.Holds duties events store life.row)
    (hrecurs : ∀ delivery ∈ life.deliveries, delivery.Recurs duties) :
    life.Settled store (duties.settings.lastDelivery stored) := by
  have hcopy := hholds
  rw [hfate] at hcopy
  obtain ⟨entry, hentry, hnumber, hcolumns, htries⟩ := hcopy
  have hlast (delivery : Delivery α) (hdelivery : life.deliveries.getLast? = some delivery) :
      delivery.reception.isFinal = false ∧
        life.deliveries.length < duties.settings.lastDelivery stored := by
    have hmem := List.mem_of_getLast? hdelivery
    have hpos := List.length_pos_of_mem hmem
    rw [List.getLast?_eq_getElem?] at hdelivery
    obtain ⟨hfinal, hbefore⟩ := h.of_recurs hmax hstored hdelivery (hrecurs delivery hmem)
    exact ⟨hfinal, by omega⟩
  refine .waiting (fun delivery hdelivery ↦ (hlast delivery hdelivery).1) ?_ hfate hentry hnumber
    hcolumns htries
  cases hempty : life.deliveries.getLast? with
  | none =>
    rw [List.getLast?_eq_none_iff.1 hempty, Settings.lastDelivery, List.length_nil]
    omega
  | some delivery => exact (hlast delivery hempty).2

/-- A life that is kept track of unfolds as its tries and receptions say. -/
theorem unfolds {world : World duties} {events : List (Event α)}
    (h : life.Tracked duties world.server.store.archive world.trial?)
    (hmax : duties.settings.maxTries ≤ JobMeta.maxTries) (hstored : life.row.tries = some stored)
    (hholds : life.fate.Holds duties events world.server.store life.row) :
    life.Unfolds duties world stored := by
  refine ⟨fun i delivery hdelivery ↦ ⟨h.tries_eq hstored hdelivery, (h.reads i delivery hdelivery).1⟩,
    fun i delivery hdelivery hlast ↦ h.stops hmax hstored hdelivery hlast, ?_⟩
  obtain ⟨earlier, latest, hdeliveries, hrecurs, hfollows⟩ := h.follows
  generalize hfate : life.fate = fate at hfollows
  cases hfollows with
  | waits =>
    rw [List.append_nil] at hdeliveries
    rw [← hdeliveries] at hfate hrecurs
    exact .inr (h.settled_of_waiting hmax hstored hfate hholds hrecurs)
  | @tried number worker trial htrial hnumber =>
    refine .inl ⟨worker, trial, htrial, by simp [hdeliveries], .inr ⟨number, hnumber, ?_⟩⟩
    rw [Ticket.queueNumber?, hfate]
    rfl
  | @done job =>
    have hlast : life.deliveries.getLast? = some ⟨job, .accepted⟩ := by simp [hdeliveries]
    exact .inr (.accepted hlast hfate)
  | @leaving worker trial failure htrial =>
    exact .inl ⟨worker, trial, htrial, by simp [hdeliveries], .inl hfate⟩
  | @archived number archivedRow delivery failure hmem hcolumns hdiagnosis hfailure hdisposition =>
    have hlast : life.deliveries[earlier.length]? = some delivery := by simp [hdeliveries]
    rw [Reception.disposition_eq_archive_iff hfailure, h.maxTries_le_iff hmax hstored hlast]
      at hdisposition
    exact .inr (.archived (by simp [hdeliveries]) hfailure (by simpa [hdeliveries] using hdisposition)
      hfate hmem hcolumns hdiagnosis)

end Life.Tracked

/-! ## Bounded retries -/

/-- The lives of a run tell everything about its rows and deliveries. -/
structure Recounts (duties : Duties α) (past : Past duties) (world : World duties) : Prop where
  /-- There is one life for each row that was enqueued. -/
  rows : ((Life.ofEvents past.events).map fun life ↦ life.row) =
    past.events.filterMap Event.enqueued?
  /-- Every delivery is one of one row. -/
  deliveries : (Life.ofEvents past.events).flatMap Life.deliveries ~
    past.events.filterMap Event.delivery?
  /-- Every row of the queue is that of one waiting row, and the other way round. -/
  queue : world.server.store.queue.map Entry.number ~
    (Life.ofEvents past.events).filterMap fun life ↦ life.queueNumber?
  archive : world.server.store.archive.map Prod.fst ~
    (Life.ofEvents past.events).filterMap fun life ↦ life.archiveNumber?
  numbers : world.server.store.numbers.Nodup
  unfolds : ∀ life ∈ Life.ofEvents past.events, ∀ stored, life.row.tries = some stored →
    life.Unfolds duties world stored
  /-- Once no delivery is in progress, the outcome of every delivery is settled. -/
  calm : world.isCalm → ∀ life ∈ Life.ofEvents past.events, ∀ stored,
    life.row.tries = some stored →
      life.Settled world.server.store (duties.settings.lastDelivery stored)

/-- In a run without deduplication in which no statement fails and no worker loses its connection,
the job of a row is delivered with one try more each time until it is accepted, its failure is fatal
or its tries are used up. Then it is gone or archived once, with the diagnosis of the last failure,
and it is not delivered again. -/
theorem bounds_retries (halone : duties.deduplicator = none)
    (hmax : duties.settings.maxTries ≤ JobMeta.maxTries) {workers : Nat} {shared : Shared}
    {now : Instant} {past : Past duties} {world : World duties}
    (hcodec : duties.codec.PreservesEnqueued past.events)
    (run : Run (fun world move ↦ world.isSteady move) (World.initial duties workers shared now) past
      world) :
    Recounts duties past world := by
  have hbalanced := balanced_of_run halone hcodec (run.mono fun _ _ _ ↦ trivial)
  have htracks := World.tracksLives_of_run halone hcodec run
  have hlives := Life.map_toTicket_ofEvents past.events
  have hunfolds : ∀ life ∈ Life.ofEvents past.events, ∀ stored, life.row.tries = some stored →
      life.Unfolds duties world stored := by
    intro life hlife stored hstored
    exact (htracks life hlife).unfolds hmax hstored
      (hbalanced.holds life.toTicket (Life.toTicket_mem hlife))
  constructor
  · calc ((Life.ofEvents past.events).map fun life ↦ life.row)
        = ((Life.ofEvents past.events).map Life.toTicket).map Ticket.row := List.map_map.symm
      _ = (Ledger.ofEvents past.events).map Ticket.row := by rw [hlives]
      _ = past.events.filterMap Event.enqueued? := Ledger.map_row_ofEvents past.events
  · exact World.deliveries_of_run halone hcodec run
  · exact hbalanced.lives_queue
  · exact hbalanced.lives_archive
  · exact (World.Sound.of_run run).server.store.nodup
  · exact hunfolds
  · intro hcalm life hlife stored hstored
    rcases (hunfolds life hlife stored hstored).settles with ⟨worker, trial, htrial, -⟩ | hsettled
    · rw [World.trial?_of_isCalm hcalm] at htrial
      cases htrial
    · exact hsettled

namespace Sample

def dying : Chance := { Chance.plain with reception := .died none }

/-- Two workers with three rows, the second of which has been tried five times before. The first is
put back, its handler dies, and it is archived when it is to be put off; meanwhile the second is to
be put back and archived as well. The third is accepted at the second attempt. -/
def retriedMoves : List Move :=
  [.produce (row 0 [.whole 0]) ⟨0⟩, .produce { row 1 [.whole 1] with tries := some 5 } ⟨0⟩,
    .produce (row 2 [.whole 2]) ⟨0⟩, .start, .resume 0, .resume 1] ++
    rounds 0 (smooth 5 ++ [rejecting (.retryable ["first"])]) ++
    rounds 1 (smooth 5 ++ [rejecting (.retryable ["other"])] ++ smooth 5) ++
    rounds 0 (smooth 3) ++
    rounds 0 (smooth 3 ++ [dying] ++ smooth 3) ++
    rounds 0 (smooth 3 ++ [rejecting (.postponed ["last"] (Span.ofSeconds 60))] ++ smooth 5) ++
    rounds 0 (smooth 3 ++ [dying] ++ smooth 3) ++
    rounds 0 (smooth 7)

end Sample

def Sample.retriedRun : Past (Sample.duties none) × World (Sample.duties none) :=
  (World.initial (Sample.duties none) 2 Sample.shared ⟨10000000000⟩).play retriedMoves

theorem bounds_retries_of_retriedRun :
    (Life.ofEvents Sample.retriedRun.1.events).map (fun life ↦
        (life.deliveries.map fun delivery ↦ delivery.job.details.tries, life.fate)) =
      [([1, 2, 3], .archived 6), ([6], .archived 3), ([1, 2], .done (some .accepted))] ∧
    Recounts (Sample.duties none) Sample.retriedRun.1 Sample.retriedRun.2 :=
  ⟨by decide +kernel, bounds_retries rfl (by decide) (fun _ _ _ h ↦ (Except.ok.inj h).symm)
    (Run.play_of_all World.isSteady _ Sample.retriedMoves (by decide +kernel))⟩

end TableQueue
