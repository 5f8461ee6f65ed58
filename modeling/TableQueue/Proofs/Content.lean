import Mathlib.Algebra.BigOperators.Group.Finset.Basic
import Mathlib.Algebra.Order.BigOperators.Group.List
import Mathlib.Data.Multiset.OrderedMonoid
import Mathlib.Tactic.Abel
import TableQueue.Proofs.World.Events

/-!
# The content of jobs

Suppose that jobs have content which the codec keeps and which is put together when duplicates are
merged. Then the content of all rows is accounted for at every moment of every run: it is in the
queue or in the archive, it was accepted, it is on its way to the archive, or it was lost on the way.
The books balance, but not as one might expect. An attempt that fails leaves the rows of the
duplicates in the queue and writes the job with the duplicates merged into it all the same, so their
content is there once more than it was enqueued. Content is kept exactly if no attempt with
duplicates ever fails.
-/

open scoped List

namespace TableQueue

variable {α κ : Type} {duties : Duties α}

/-- The codec keeps the content of a job, and the merge puts the contents of two jobs together. -/
structure Duties.KeepsContent (duties : Duties α) (content : List Cell → Multiset κ) : Prop where
  codec : ∀ cells payload, duties.codec.decode cells = .ok payload →
    content (duties.codec.encode payload) = content cells
  merge : ∀ deduplicator, duties.deduplicator = some deduplicator →
    ∀ payload skipped merged, deduplicator.merge payload skipped = .ok merged →
      content (duties.codec.encode merged) =
        content (duties.codec.encode payload) + content (duties.codec.encode skipped)

/-- Where content comes from and, outside the tables, where it goes. -/
inductive Account where
  | enqueued
  /-- It was merged into the job of an attempt that failed. -/
  | repeated
  | accepted
  /-- Its job was removed from the queue and could not be archived. -/
  | lost

/-- The job that a failed attempt writes or is going to archive. -/
def Happening.failed? : Happening α → Option (Job α)
  | returned job _ | removed job _ => some job
  | _ => none

section Content

variable (content : List Cell → Multiset κ)

def Duties.contentOf (duties : Duties α) (job : Job α) : Multiset κ :=
  content (duties.codec.encode job.payload)

def Row.contents (rows : List Row) : Multiset κ := (rows.map fun row ↦ content row.job).sum

namespace Store

def queueContent (store : Store) : Multiset κ := Row.contents content (store.queue.map Entry.row)

def archiveContent (store : Store) : Multiset κ :=
  (store.archive.map fun (_, row) ↦ content row.job).sum

end Store

def Event.entered (duties : Duties α) : Account → Event α → Multiset κ
  | .enqueued, .enqueued _ row => content row.job
  | .repeated, .happened _ _ attempt (.returned ..)
  | .repeated, .happened _ _ attempt (.removed ..) => Row.contents content attempt.merged
  | .accepted, .happened _ _ _ (.accepted job)
  | .lost, .happened _ _ _ (.lost job _) => duties.contentOf content job
  | _, _ => 0

def Account.total (duties : Duties α) (events : List (Event α)) (account : Account) : Multiset κ :=
  (events.map (Event.entered content duties account)).sum

def World.departing (world : World duties) : Multiset κ :=
  ∑ number ∈ Finset.range world.members.length,
    (world.departing? number).elim 0 (duties.contentOf content)

/-- All content is accounted for. -/
def World.Balances (events : List (Event α)) (world : World duties) : Prop :=
  world.server.store.queueContent content + world.server.store.archiveContent content +
      Account.total content duties events .accepted + world.departing content +
      Account.total content duties events .lost =
    Account.total content duties events .enqueued + Account.total content duties events .repeated

end Content

variable {content : List Cell → Multiset κ}

/-! ## Merging -/

theorem Duties.KeepsContent.mergeRow (h : duties.KeepsContent content)
    {deduplicator : Deduplicator α} (hsome : duties.deduplicator = some deduplicator)
    {payload merged : α} {row : Row}
    (hmerged : duties.mergeRow deduplicator payload row = some merged) :
    content (duties.codec.encode merged) =
      content (duties.codec.encode payload) + content row.job := by
  unfold Duties.mergeRow at hmerged
  split at hmerged
  · next details skipped _ hdecode =>
    cases hmerge : deduplicator.merge payload skipped with
    | error text => simp [hmerge, Except.toOption] at hmerged
    | ok result =>
      simp only [hmerge, Except.toOption, Option.some.injEq] at hmerged
      rw [← hmerged, h.merge _ hsome _ _ _ hmerge, h.codec _ _ hdecode]
  · cases hmerged

/-- Merging rows into a job puts their contents together. -/
theorem Duties.KeepsContent.mergeRows (h : duties.KeepsContent content) {payload merged : α}
    {rows : List Row} (hmerged : duties.mergeRows payload rows = some merged)
    (halone : duties.deduplicator = none → rows = []) :
    content (duties.codec.encode merged) =
      content (duties.codec.encode payload) + Row.contents content rows := by
  unfold Duties.mergeRows at hmerged
  cases hdeduplicator : duties.deduplicator with
  | none =>
    simp only [hdeduplicator, Option.some.injEq] at hmerged
    rw [halone hdeduplicator, ← hmerged]
    simp [Row.contents]
  | some deduplicator =>
    simp only [hdeduplicator] at hmerged
    clear halone
    induction rows generalizing payload with
    | nil =>
      obtain rfl := Option.some.inj hmerged
      simp [Row.contents]
    | cons row rest ih =>
      rw [List.foldlM_cons] at hmerged
      obtain ⟨next, hnext, hrest⟩ := Option.bind_eq_some_iff.1 hmerged
      rw [ih hrest, h.mergeRow hdeduplicator hnext, add_assoc]
      rfl

/-- A job has the content of its row and of the rows that were merged into it. -/
theorem Duties.KeepsContent.renders (h : duties.KeepsContent content) {row : Row}
    {merged : List Row} {job : Job α} (hrenders : duties.Renders row merged job) :
    duties.contentOf content job = content row.job + Row.contents content merged := by
  obtain ⟨payload, hdecode, hmerged⟩ := hrenders.payload
  rw [Duties.contentOf, h.mergeRows hmerged hrenders.alone, h.codec _ _ hdecode]

/-! ## Commits -/

@[simp] theorem Row.contents_nil : Row.contents content [] = 0 := rfl

@[simp] theorem Row.contents_cons (row : Row) (rows : List Row) :
    Row.contents content (row :: rows) = content row.job + Row.contents content rows := by
  simp [Row.contents]

theorem Row.contents_append (rows rows' : List Row) :
    Row.contents content (rows ++ rows') = Row.contents content rows + Row.contents content rows' := by
  simp [Row.contents]

theorem Row.contents_perm (content : List Cell → Multiset κ) {rows rows' : List Row} (h : rows.Perm rows') :
    Row.contents content rows = Row.contents content rows' := (h.map _).sum_eq

namespace Store

variable {store store' : Store} {session : Nat} {changes : Changes} {taken : List Entry}

theorem SameTables.queueContent (h : store.SameTables store') :
    store'.queueContent content = store.queueContent content := by
  rw [Store.queueContent, h.queue, Store.queueContent]

theorem SameTables.archiveContent (h : store.SameTables store') :
    store'.archiveContent content = store.archiveContent content := by
  rw [Store.archiveContent, h.archive, Store.archiveContent]

/-- A producer adds the content of its row. -/
theorem queueContent_produce (store : Store) (row : Row) (visibleFrom : Instant) :
    (store.produce row visibleFrom).queueContent content =
      store.queueContent content + content row.job := by
  simp [Store.queueContent, Store.produce, Row.contents]

/-- Some entries of a queue and those that are left without them. -/
theorem perm_of_deleted {queue : List Entry} (hnodup : (queue.map Entry.number).Nodup)
    (hsubset : taken ⊆ queue) (hdistinct : (taken.map Entry.number).Nodup) :
    (taken ++ queue.filter fun entry ↦ !(taken.map Entry.number).contains entry.number).Perm
      queue := by
  have htaken : taken.Perm
      (queue.filter fun entry ↦ (taken.map Entry.number).contains entry.number) := by
    rw [List.perm_ext_iff_of_nodup hdistinct.of_map (hnodup.of_map.filter _)]
    intro entry
    rw [List.mem_filter, List.contains_iff_mem, List.mem_map]
    refine ⟨fun hmem ↦ ⟨hsubset hmem, entry, hmem, rfl⟩, fun ⟨hmem, other, hother, hnumber⟩ ↦ ?_⟩
    rw [← List.inj_on_of_nodup_map hnodup (hsubset hother) hmem hnumber]
    exact hother
  calc _ ~ (queue.filter fun entry ↦ (taken.map Entry.number).contains entry.number) ++
          queue.filter fun entry ↦ !(taken.map Entry.number).contains entry.number :=
        htaken.append_right _
    _ ~ queue := List.filter_append_perm _ queue

/-- A commit puts the contents of the inserted rows in the place of those of the deleted ones. -/
theorem Commits.queueContent (content : List Cell → Multiset κ)
    (h : store.Commits session changes store')
    (hnodup : (store.queue.map Entry.number).Nodup) (taken : List Entry) (hsubset : taken ⊆ store.queue)
    (hdistinct : (taken.map Entry.number).Nodup) (hdeleted : changes.deleted = taken.map Entry.number)
    (hnew : ∀ entry ∈ changes.inserted, entry.number ∉ changes.deleted) :
    store'.queueContent content + Row.contents content (taken.map Entry.row) =
      store.queueContent content + Row.contents content (changes.inserted.map Entry.row) := by
  have hkept : changes.inserted.filter (fun entry ↦ !changes.deleted.contains entry.number) =
      changes.inserted :=
    List.filter_eq_self.2 fun entry hentry ↦ by simpa using hnew entry hentry
  have hqueue : store'.queue.Perm
      ((store.queue.filter fun entry ↦ !changes.deleted.contains entry.number) ++
        changes.inserted) := by
    rw [h.queue]
    calc (placeAll Entry.number changes.inserted store.queue).filter
            (fun entry ↦ !changes.deleted.contains entry.number)
        ~ (store.queue ++ changes.inserted).filter
            (fun entry ↦ !changes.deleted.contains entry.number) :=
          (placeAll_perm Entry.number changes.inserted store.queue).filter _
      _ = _ := by rw [List.filter_append, hkept]
  have hrest := perm_of_deleted hnodup hsubset hdistinct
  rw [← hdeleted] at hrest
  have hafter := Row.contents_perm content (hqueue.map Entry.row)
  have hbefore := Row.contents_perm content (hrest.map Entry.row)
  rw [List.map_append, Row.contents_append] at hafter hbefore
  unfold Store.queueContent
  rw [hafter, ← hbefore]
  abel

theorem Commits.archiveContent (h : store.Commits session changes store') :
    store'.archiveContent content = store.archiveContent content +
      (changes.archived.map fun (_, row) ↦ content row.job).sum := by
  unfold Store.archiveContent
  rw [h.archive, ((placeAll_perm Prod.fst changes.archived store.archive).map _).sum_eq,
    List.map_append, List.sum_append]

end Store

/-! ## The departing content -/

theorem World.departing?_of_le {world : World duties} {number : Nat}
    (h : world.members.length ≤ number) : world.departing? number = none := by
  simp only [World.departing?, List.getElem?_eq_none h]

theorem World.departing_eq {world world' : World duties}
    (hlength : world'.members.length = world.members.length)
    (hsame : ∀ j, world'.departing? j = world.departing? j) :
    world'.departing content = world.departing content := by
  unfold World.departing
  simp only [hlength, hsame]

/-- The departing content changes with the job of one worker. -/
theorem World.departing_add (content : List Cell → Multiset κ) {world world' : World duties} {worker : Nat}
    (hlength : world'.members.length = world.members.length)
    (hothers : ∀ j ≠ worker, world'.departing? j = world.departing? j) :
    world'.departing content + (world.departing? worker).elim 0 (duties.contentOf content) =
      world.departing content + (world'.departing? worker).elim 0 (duties.contentOf content) := by
  by_cases hworker : worker < world.members.length
  · have hrest : ∑ j ∈ (Finset.range world.members.length).erase worker,
        (world'.departing? j).elim 0 (duties.contentOf content) =
          ∑ j ∈ (Finset.range world.members.length).erase worker,
            (world.departing? j).elim 0 (duties.contentOf content) :=
      Finset.sum_congr rfl fun j hj ↦ by rw [hothers j (Finset.ne_of_mem_erase hj)]
    unfold World.departing
    rw [hlength, ← Finset.add_sum_erase _ _ (Finset.mem_range.2 hworker), hrest,
      ← Finset.add_sum_erase _ (fun j ↦ (world.departing? j).elim 0 (duties.contentOf content))
        (Finset.mem_range.2 hworker)]
    abel
  · have hbefore := world.departing?_of_le (Nat.le_of_not_lt hworker)
    have hafter := world'.departing?_of_le (hlength ▸ Nat.le_of_not_lt hworker)
    rw [hbefore, hafter]
    refine congrArg (· + _) (World.departing_eq hlength fun j ↦ ?_)
    by_cases hj : j = worker
    · rw [hj, hbefore, hafter]
    · exact hothers j hj

/-! ## The books -/

/-- The number of a row that a transaction has inserted is not that of a row in the queue. -/
theorem Store.Commits.ne_of_inserted {store store' : Store} {session : Nat} {changes : Changes}
    (h : store.Commits session changes store') (hsound : store.Sound) {new entry : Entry}
    (hnew : new ∈ changes.inserted) (hentry : entry ∈ store.queue) : new.number ≠ entry.number := by
  obtain ⟨savepoint, hactive⟩ := h.active
  have hadmits := (hsound.admits session).new
  rw [hactive] at hadmits
  intro hsame
  refine hadmits new.number ?_ (List.mem_append_left _ (hsame ▸ List.mem_map_of_mem hentry))
  exact List.mem_append_left _ (List.mem_map_of_mem hnew)

/-- A job that is put back brings the content of the duplicates into the queue once more. -/
theorem Store.Commits.queueContent_of_returned (hkeeps : duties.KeepsContent content)
    {store store' : Store} (hsound : store.Sound) {session : Nat} {changes : Changes}
    (hcommits : store.Commits session changes store') {merged : List Row} {job : Job α}
    {entry new : Entry} {dequeueAfter : Instant} (hholds : store.Holds duties merged job entry)
    (hrow : new.row = duties.savedRow job dequeueAfter) (hdeleted : changes.deleted = [entry.number])
    (hinserted : changes.inserted = [new]) :
    store'.queueContent content = store.queueContent content + Row.contents content merged := by
  have hnodup : (store.queue.map Entry.number).Nodup := (List.nodup_append.1 hsound.nodup).1
  have hcommitted := hcommits.queueContent content hnodup [entry]
    (List.cons_subset.2 ⟨hholds.mem, List.nil_subset _⟩) (by simp) hdeleted fun other hother ↦ by
      rw [hdeleted, List.mem_singleton]
      exact hcommits.ne_of_inserted hsound hother hholds.mem
  have hnew : content new.row.job = content entry.row.job + Row.contents content merged := by
    rw [hrow, ← hkeeps.renders hholds.renders]
    rfl
  simp only [hinserted, List.map_cons, List.map_nil, Row.contents_cons, Row.contents_nil, hnew]
    at hcommitted
  apply add_right_cancel (b := content entry.row.job)
  simpa [add_assoc, add_comm, add_left_comm] using hcommitted

/-- Whatever happens to a job, its content stays in one place, or it is entered on an account. -/
theorem Outcome.balance (hkeeps : duties.KeepsContent content) {store store' : Store}
    (hsound : store.Sound) {attempt : Attempt} {session : Nat} {happening : Happening α}
    {before after : Option (Job α)}
    (h : Outcome duties store store' attempt session (some happening) before after)
    (worker : Nat) (changes : Changes) :
    store'.queueContent content + store'.archiveContent content +
        after.elim 0 (duties.contentOf content) +
        (Event.happened worker changes attempt happening).entered content duties .accepted +
        (Event.happened worker changes attempt happening).entered content duties .lost =
      store.queueContent content + store.archiveContent content +
        before.elim 0 (duties.contentOf content) +
        (Event.happened worker changes attempt happening).entered content duties .repeated := by
  have hnodup : (store.queue.map Entry.number).Nodup := (List.nodup_append.1 hsound.nodup).1
  cases h with
  | received hstore => simp [hstore, Event.entered]
  | @accepted job committed entry taken _ hcommits hholds hsubset hdistinct hrows hdeleted hinserted
      harchived =>
    have hqueue : store'.queueContent content + duties.contentOf content job =
        store.queueContent content := by
      have hcommitted := hcommits.queueContent content hnodup (entry :: taken)
        (List.cons_subset.2 ⟨hholds.mem, hsubset⟩) hdistinct hdeleted
        fun new hnew ↦ absurd (hinserted ▸ hnew) List.not_mem_nil
      rw [hkeeps.renders hholds.renders, ← hrows]
      simpa [hinserted] using hcommitted
    simp only [hcommits.archiveContent, harchived, Event.entered, Option.elim_none, ← hqueue,
      List.map_nil, List.sum_nil]
    abel
  | @returned job failure committed entry new dequeueAfter _ hcommits hholds hrow hdeleted hinserted
      harchived =>
    have hqueue := Store.Commits.queueContent_of_returned hkeeps hsound hcommits hholds hrow hdeleted hinserted
    simp only [hcommits.archiveContent, harchived, Event.entered, Option.elim_none, hqueue,
      List.map_nil, List.sum_nil]
    abel
  | @removed job failure committed entry _ hcommits hholds hdeleted hinserted harchived =>
    have hqueue : store'.queueContent content + content entry.row.job =
        store.queueContent content := by
      have hcommitted := hcommits.queueContent content hnodup [entry]
        (List.cons_subset.2 ⟨hholds.mem, List.nil_subset _⟩) (by simp) hdeleted
        fun new hnew ↦ absurd (hinserted ▸ hnew) List.not_mem_nil
      simpa [hinserted] using hcommitted
    simp only [hcommits.archiveContent, harchived, Event.entered, Option.elim_none,
      Option.elim_some, ← hqueue, hkeeps.renders hholds.renders, List.map_nil, List.sum_nil]
    abel
  | @archived job failure committed number failedAt hcommits hdeleted hinserted harchived =>
    have hqueue : store'.queueContent content = store.queueContent content := by
      have hcommitted := hcommits.queueContent content hnodup []
        (List.nil_subset _) (by simp) hdeleted
        fun new hnew ↦ absurd (hinserted ▸ hnew) List.not_mem_nil
      simpa [hinserted] using hcommitted
    have harchive : store'.archiveContent content =
        store.archiveContent content + duties.contentOf content job := by
      rw [hcommits.archiveContent, harchived, List.map_singleton, List.sum_singleton]
      rfl
    simp only [harchive, hqueue, Event.entered, Option.elim_none, Option.elim_some]
    abel
  | lost htables =>
    simp [htables.queueContent, htables.archiveContent, Event.entered]

/-- Accounts add up over the events. -/
theorem Account.total_append (events events' : List (Event α)) (account : Account) :
    account.total content duties (events ++ events') =
      account.total content duties events + account.total content duties events' := by
  simp [Account.total]

theorem Account.total_singleton (event : Event α) (account : Account) :
    account.total content duties [event] = event.entered content duties account := by
  simp [Account.total]

namespace World

variable {world : World duties} {events : List (Event α)}

/-- Nothing is on account before the first move. -/
theorem Balances.initial (duties : Duties α) (workers : Nat) (shared : Shared) (now : Instant) :
    (World.initial duties workers shared now).Balances content [] := by
  have hdeparting : (World.initial duties workers shared now).departing content = 0 :=
    Finset.sum_eq_zero fun number _ ↦ by rw [departing?_initial, Option.elim_none]
  rw [Balances, hdeparting]
  simp [Account.total, World.initial, Store.empty, Store.queueContent, Store.archiveContent,
    Row.contents]

/-- Every move keeps the books balanced. -/
theorem Balances.step (hkeeps : duties.KeepsContent content) (hsound : world.Sound)
    (h : world.Balances content events) (move : Move) :
    (world.step move).Balances content (events ++ (world.event? move).toList) := by
  have hlength := length_members_step world move
  have heffect := hsound.effect move
  generalize world.event? move = event? at heffect ⊢
  generalize world.step move = world' at heffect hlength ⊢
  unfold Balances at h ⊢
  simp only [Account.total_append]
  cases heffect with
  | none htables hdeparting =>
    rw [htables.queueContent, htables.archiveContent, World.departing_eq hlength hdeparting]
    simpa [Account.total] using h
  | @enqueued row visibleFrom hstore hdeparting =>
    have harchive : (world.server.store.produce row visibleFrom).archiveContent content =
        world.server.store.archiveContent content := rfl
    rw [hstore, World.departing_eq hlength hdeparting, Store.queueContent_produce, harchive]
    simp only [Option.toList_some, Account.total_singleton, Event.entered]
    grind
  | @happened worker session changes attempt happening _ houtcome hothers =>
    have hdeparting := World.departing_add content hlength hothers
    have hbalance := houtcome.balance hkeeps hsound.server.store worker changes
    generalize hevent : Event.happened worker changes attempt happening = event at hbalance ⊢
    have henqueued : event.entered content duties .enqueued = 0 := by
      rw [← hevent]
      rfl
    generalize (world.departing? worker).elim 0 (duties.contentOf content) = before
      at hdeparting hbalance
    generalize (world'.departing? worker).elim 0 (duties.contentOf content) = after
      at hdeparting hbalance
    simp only [Option.toList_some, Account.total_singleton, henqueued]
    apply add_right_cancel (b := before + after)
    calc _ = world'.server.store.queueContent content +
              world'.server.store.archiveContent content + after +
              event.entered content duties .accepted + event.entered content duties .lost +
            (world'.departing content + before) +
            (Account.total content duties events .accepted +
              Account.total content duties events .lost) := by abel
      _ = world.server.store.queueContent content + world.server.store.archiveContent content +
              Account.total content duties events .accepted + world.departing content +
              Account.total content duties events .lost +
            event.entered content duties .repeated + (before + after) := by
        rw [hbalance, hdeparting]
        abel
      _ = _ := by
        rw [h]
        abel

/-- All content is accounted for throughout a run. -/
theorem balances_of_run (hkeeps : duties.KeepsContent content)
    {allowed : World duties → Move → Prop} {workers : Nat} {shared : Shared} {now : Instant}
    {past : Past duties}
    (run : Run allowed (World.initial duties workers shared now) past world) :
    world.Balances content past.events := by
  induction run with
  | rest => exact Balances.initial duties workers shared now
  | move run' _ ih =>
    rw [Past.events_cons]
    exact ih.step hkeeps (Sound.of_run run') _

end World

/-! ## Runs in which no statement fails -/

def Call.isFailed : (call : Call α) → Option call.Answer → Bool
  | .execute .., some (.error _) => true
  | _, _ => false

/-- Whether a claimed job is being worked on. -/
def Point.isWorking : Point α → Bool
  | working .. => true
  | _ => false

namespace World

def isSmooth (world : World duties) : Move → Bool
  | .answer number chance =>
    match world.members[number]? with
    | some ⟨worker, none, _, _⟩ =>
      !(worker.call duties).isFailed
        (world.server.answer world.now chance (worker.call duties)).2
    | _ => true
  | _ => true

def isCalm (world : World duties) : Bool :=
  world.members.all fun member ↦ !member.worker.point.isWorking

end World

theorem Point.departing?_of_isWorking {point : Point α} (h : point.isWorking = false)
    (answer? : Option (point.call duties).Answer) : point.departing? duties answer? = none := by
  cases point with
  | working => cases h
  | idle | starting | atConnectGate | connecting | atFailureGate | asleep | polling | rollingBack
    | closing | crashed => rfl

/-- A job is lost only when a statement fails. -/
theorem Point.isFailed_of_lost {point : Point α} {answer? : Option (point.call duties).Answer}
    {job : Job α} {error : DatabaseError}
    (h : point.happening? duties answer? = some (.lost job error)) :
    (point.call duties).isFailed answer? = true := by
  cases point with
  | idle | starting | atConnectGate | connecting | atFailureGate | asleep | polling | rollingBack
    | closing | crashed => cases h
  | working session claimed stage =>
    cases stage with
    | saving | deduplicating | releasing | undoing | puttingOff | puttingBack => cases h
    | delivering => cases answer? <;> cases h
    | committingSuccess | committingPutOff | committingPutBack | committingClaim =>
      rcases answer? with _ | _ | ⟨⟩ <;> cases h
    | beginningArchive | committingArchive =>
      rcases answer? with _ | _ | ⟨⟩
      · cases h
      · rfl
      · cases h
    | archiving =>
      rcases answer? with _ | _ | _
      · cases h
      · rfl
      · cases h

namespace World

variable {world : World duties} {move : Move}

/-- Nothing is on its way to the archive while no delivery is in progress. -/
theorem departing_of_isCalm (h : world.isCalm) : world.departing content = 0 := by
  apply Finset.sum_eq_zero
  intro number _
  have hnone : world.departing? number = none := by
    cases hmember : world.members[number]? with
    | none => simp only [departing?, hmember]
    | some member =>
      have hcalm := List.all_eq_true.1 h member (List.mem_of_getElem? hmember)
      simp only [departing?, hmember]
      exact Point.departing?_of_isWorking (by simpa using hcalm) _
  rw [hnone, Option.elim_none]

theorem lost_of_isSmooth (h : world.isSmooth move) :
    Account.total content duties (world.event? move).toList .lost = 0 := by
  cases hevent : world.event? move with
  | none => simp [Account.total]
  | some event =>
    rw [Option.toList_some, Account.total_singleton]
    cases event with
    | enqueued => rfl
    | happened worker changes attempt happening =>
      cases happening with
      | received | accepted | returned | removed | archived => rfl
      | lost job error =>
        exfalso
        cases move with
        | produce | pass | drop | write | resume | start | stop | await | endAwait | release =>
          cases hevent
        | answer number chance =>
          simp only [event?] at hevent
          split at hevent
          · next worker' servedAt attempt' hmember =>
            obtain ⟨happening, hhappening, hsame⟩ := Option.map_eq_some_iff.1 hevent
            simp only [Event.happened.injEq] at hsame
            obtain ⟨-, -, -, rfl⟩ := hsame
            have hfailed := Point.isFailed_of_lost hhappening
            simp only [isSmooth, hmember] at h
            exact Bool.false_ne_true ((congrArg (! ·) hfailed).symm.trans h)
          · cases hevent

/-- Nothing is lost in a run without failing statements. -/
theorem lost_of_run {workers : Nat} {shared : Shared} {now : Instant} {past : Past duties}
    (run : Run (fun world move ↦ world.isSmooth move)
      (World.initial duties workers shared now) past world) :
    Account.total content duties past.events .lost = 0 := by
  induction run with
  | rest => rfl
  | move _ hmove ih => rw [Past.events_cons, Account.total_append, ih, lost_of_isSmooth hmove, add_zero]

/-- The job that a failed attempt writes has the content of the rows that were merged into it, besides
that of its own row. -/
theorem Sound.failed (h : world.Sound) (hkeeps : duties.KeepsContent content) {worker : Nat}
    {changes : Changes} {attempt : Attempt} {happening : Happening α} {job : Job α}
    (hevent : world.event? move = some (.happened worker changes attempt happening))
    (hfailed : happening.failed? = some job) :
    ∃ entry ∈ world.server.store.queue, changes.deleted = [entry.number] ∧
      duties.contentOf content job =
        content entry.row.job + Row.contents content attempt.merged := by
  have heffect := h.effect move
  rw [hevent] at heffect
  generalize world.step move = world' at heffect
  cases heffect with
  | happened hchanges houtcome _ =>
    have hcommitted {session : Nat} {committed : Changes} {store' : Store}
        (hsame : (world.server.store.transaction session).changes = changes)
        (hcommits : world.server.store.Commits session committed store') : committed = changes := by
      obtain ⟨savepoint, hactive⟩ := hcommits.active
      rw [← hsame, hactive]
      rfl
    generalize world.departing? worker = before at houtcome
    generalize world'.departing? worker = after at houtcome
    cases houtcome with
    | received | accepted | archived | lost => cases hfailed
    | returned hheard hcommits hholds hrow hdeleted =>
      obtain rfl := Option.some.inj hfailed
      exact ⟨_, hholds.mem, hcommitted hchanges hcommits ▸ hdeleted, hkeeps.renders hholds.renders⟩
    | removed hheard hcommits hholds hdeleted =>
      obtain rfl := Option.some.inj hfailed
      exact ⟨_, hholds.mem, hcommitted hchanges hcommits ▸ hdeleted, hkeeps.renders hholds.renders⟩

end World

/-! ## When content is kept -/

/-- Nothing is repeated exactly if no failed job had any content of duplicates. -/
theorem Account.repeated_eq_zero_iff {events : List (Event α)} :
    Account.total content duties events .repeated = 0 ↔
      ∀ worker changes attempt happening, .happened worker changes attempt happening ∈ events →
        happening.failed?.isSome → Row.contents content attempt.merged = 0 := by
  rw [Account.total, List.sum_eq_zero_iff, List.forall_mem_map]
  refine ⟨fun h worker changes attempt happening hmem hfailed ↦ ?_, fun h event hmem ↦ ?_⟩
  · have hzero := h _ hmem
    cases happening with
    | returned | removed => exact hzero
    | received | accepted | archived | lost => cases hfailed
  · cases event with
    | enqueued => rfl
    | happened worker changes attempt happening =>
      cases happening with
      | returned | removed => exact h worker changes attempt _ hmem rfl
      | received | accepted | archived | lost => rfl

/-- After a run in which no statement fails, once no delivery is in progress, the tables and the
accepted jobs hold what was enqueued and, besides, what failed attempts have repeated. Every failed
attempt writes its job with the duplicates in it. So content is kept exactly if none of the failed
attempts had duplicates with any content. -/
theorem keeps_content_iff (hkeeps : duties.KeepsContent content) {workers : Nat} {shared : Shared}
    {now : Instant} {past : Past duties} {world : World duties}
    (run : Run (fun world move ↦ world.isSmooth move) (World.initial duties workers shared now) past
      world) (hcalm : world.isCalm) :
    world.server.store.queueContent content + world.server.store.archiveContent content +
        Account.total content duties past.events .accepted =
      Account.total content duties past.events .enqueued +
        Account.total content duties past.events .repeated ∧
    (∀ earlier move worker changes attempt happening job, (earlier, move) ∈ past →
      earlier.event? move = some (.happened worker changes attempt happening) →
      happening.failed? = some job →
        ∃ entry ∈ earlier.server.store.queue, changes.deleted = [entry.number] ∧
          duties.contentOf content job =
            content entry.row.job + Row.contents content attempt.merged) ∧
    (world.server.store.queueContent content + world.server.store.archiveContent content +
        Account.total content duties past.events .accepted =
      Account.total content duties past.events .enqueued ↔
        ∀ worker changes attempt happening, .happened worker changes attempt happening ∈ past.events →
          happening.failed?.isSome → Row.contents content attempt.merged = 0) := by
  have hbalance := World.balances_of_run hkeeps run
  rw [World.Balances, World.departing_of_isCalm hcalm, World.lost_of_run run, add_zero, add_zero]
    at hbalance
  refine ⟨hbalance, fun earlier move worker changes attempt happening job hmem hevent hfailed ↦ ?_,
    ?_⟩
  · obtain ⟨past', run'⟩ := run.of_mem hmem
    exact (World.Sound.of_run run').failed hkeeps hevent hfailed
  · rw [hbalance, add_eq_left, Account.repeated_eq_zero_iff]

namespace Sample

def joining : Duties (Cell × String) where
  settings := { Settings.default with queueNames := ["a"] }
  codec :=
    { decode := fun
        | [key, .text text] => .ok (key, text)
        | _ => .error (.columnDecode 5 "not a text")
      encode := fun (key, text) ↦ [key, .text text] }
  deduplicator := some
    { positions := [0]
      values := fun (key, _) ↦ [key]
      merge := fun (key, text) (_, skipped) ↦ .ok (key, text ++ skipped) }

def letters : List Cell → Multiset Char
  | [_, .text text] => text.toList
  | _ => 0

theorem keepsContent_joining : joining.KeepsContent letters where
  codec cells payload hdecode := by
    simp only [joining] at hdecode ⊢
    split at hdecode
    · obtain rfl := Except.ok.inj hdecode
      rfl
    · cases hdecode
  merge deduplicator hdeduplicator payload skipped merged hmerged := by
    obtain rfl := Option.some.inj hdeduplicator
    obtain rfl := Except.ok.inj hmerged
    simp [joining, letters]

/-- The job "a" is delivered with its duplicate "b", and rejected. -/
def rejectedMoves : List Move :=
  [.produce (row 0 [.whole 1, .text "a"]) ⟨0⟩, .produce (row 1 [.whole 1, .text "b"]) ⟨0⟩,
    .start, .resume 0] ++
    rounds 0 (smooth 6 ++ [rejecting (.retryable ["no"])] ++ smooth 3)

end Sample

/-- Deduplication repeats content: "b" is in the queue twice after an attempt at "a" has failed. -/
theorem repeats_content_of_rejectedMoves :
    Sample.joining.KeepsContent Sample.letters ∧
    ∃ past world, Run (fun world move ↦ world.isSmooth move)
        (World.initial Sample.joining 1 Sample.shared ⟨10000000000⟩) past world ∧
      world.isCalm ∧
      Account.total Sample.letters Sample.joining past.events .enqueued = {'a', 'b'} ∧
      world.server.store.queueContent Sample.letters = {'a', 'b', 'b'} ∧
      world.server.store.archiveContent Sample.letters = 0 ∧
      Account.total Sample.letters Sample.joining past.events .accepted = 0 :=
  ⟨Sample.keepsContent_joining, _, _,
    Run.play_of_all World.isSmooth _ Sample.rejectedMoves (by decide +kernel),
    by decide +kernel, by decide +kernel, by decide +kernel, by decide +kernel, by decide +kernel⟩

/-- After the rejection the job is delivered once more, with the duplicate once more, and accepted. -/
def Sample.redelivered : Past Sample.joining × World Sample.joining :=
  (World.initial Sample.joining 1 Sample.shared ⟨10000000000⟩).play
    (Sample.rejectedMoves ++ Sample.rounds 0 (Sample.smooth 7))

theorem keeps_content_iff_of_redelivered :
    Account.total Sample.letters Sample.joining Sample.redelivered.1.events .accepted =
        {'a', 'b', 'b'} ∧
      Sample.redelivered.2.server.store.queueContent Sample.letters +
          Sample.redelivered.2.server.store.archiveContent Sample.letters +
          Account.total Sample.letters Sample.joining Sample.redelivered.1.events .accepted =
        Account.total Sample.letters Sample.joining Sample.redelivered.1.events .enqueued +
          Account.total Sample.letters Sample.joining Sample.redelivered.1.events .repeated :=
  ⟨by decide +kernel, (keeps_content_iff Sample.keepsContent_joining
    (Run.play_of_all World.isSmooth _ _ (by decide +kernel)) (by decide +kernel)).1⟩

end TableQueue
