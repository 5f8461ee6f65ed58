import TableQueue.Proofs.Deliveries

/-!
# Claimed rows and their duplicates

With a deduplicator, the rows that agree with a claimed job are taken from the queue in the
transaction of the claim and merged into the job before the handler gets it. An errand is a claimed
row with the job that it holds. Until the lookup the transaction deletes the claimed row alone, and
from then on the duplicates as well; a worker changes the tables with a commit only. An answer
brings a worker from one stage of its errand to another or to the end.
-/

namespace TableQueue

variable {α : Type} {duties : Duties α}

/-! ## What is taken down -/

/-- A lookup of duplicates that has succeeded, with the store before and after. -/
structure Lookup where
  now : Instant
  before : Store
  after : Store
  rows : List Row

def Call.lookup? (now : Instant) (before after : Store) :
    (call : Call α) → Option call.Answer → Option Lookup
  | .execute _ (.takeDuplicates ..), some (.ok rows) => some ⟨now, before, after, rows⟩
  | _, _ => none

namespace World

variable (world : World duties) (number : Nat)

def lookup? : Move → Option Lookup
  | .answer other chance =>
    match world.members[other]? with
    | some ⟨worker, none, _, _⟩ =>
      if other = number then
        (worker.call duties).lookup? world.now world.server.store
          (world.server.answer world.now chance (worker.call duties)).1.store
          (world.server.answer world.now chance (worker.call duties)).2
      else none
    | _ => none
  | _ => none

/-- The tables before and after a move of a worker that changes them. -/
def change? (move : Move) : Option (Tables × Tables) :=
  if move.actor? = some number ∧ (world.step move).tables ≠ world.tables then
    some (world.tables, (world.step move).tables)
  else none

end World

def Past.lookups (number : Nat) (past : Past duties) : List Lookup :=
  past.filterMap fun (world, move) ↦ world.lookup? number move

def Past.changes (number : Nat) (past : Past duties) : List (Tables × Tables) :=
  past.filterMap fun (world, move) ↦ world.change? number move

/-- All that is taken down about a worker. -/
structure Trail extends Journal where
  lookups : List Lookup
  changes : List (Tables × Tables)

namespace Trail

def blank : Trail := ⟨.blank, [], []⟩

/-- Takes down an answer and what it has done to the server. -/
def answered (trail : Trail) (now : Instant) (server server' : Server) (call : Call α)
    (answer : call.Answer) : Trail where
  toJournal := trail.toJournal.answered now call (some answer)
  lookups :=
    (call.lookup? now server.store server'.store (some answer)).toList ++ trail.lookups
  changes :=
    if server'.store.tables = server.store.tables then trail.changes
    else (server.store.tables, server'.store.tables) :: trail.changes

end Trail

def Past.trail (number : Nat) (past : Past duties) : Trail :=
  ⟨past.journal number, past.lookups number, past.changes number⟩

/-! ## Turns of a worker that looks for duplicates -/

namespace Point

/-- What a worker that looks for duplicates does not leave out. It does not deliver a job from its
savepoint, and it delivers one that can be merged. -/
def JobHeeds (duties : Duties α) (session : Nat) (job : Job α) :
    (stage : JobStage) → (jobCall duties session job stage).Answer → Point α → Prop
  | .saving, _, point => point ≠ working session job .delivering
  | .deduplicating _, .ok rows, point => ∀ payload,
    duties.mergeRows job.payload rows = some payload →
    point = working session { job with payload } .delivering
  | _, _, _ => True

/-- A worker that looks for duplicates takes in hand what it has claimed and can read. -/
def Heeds (duties : Duties α) : (point : Point α) → (point.call duties).Answer → Point α → Prop
  | polling session _ (.claiming ..), .ok (some row), point => ∀ job, duties.Reads row job →
    point = working session job .saving
  | working session job stage, answer, point => JobHeeds duties session job stage answer point
  | _, _, _ => True

def IsSaving : Point α → Prop
  | working _ _ .saving => True
  | _ => False

end Point

theorem Worker.resume_heeds {deduplicator : Deduplicator α}
    (hdeduplicator : duties.deduplicator = some deduplicator)
    (hpositions : deduplicator.positions ≠ []) (moment : Moment) (shared : Shared)
    (worker : Worker α)
    (hclosed : worker.point.IsSaving → shared.breaker.closedAt moment.now.millis = true)
    (answer : (worker.call duties).Answer) :
    worker.point.Heeds duties answer (worker.resume duties moment shared answer).worker.point := by
  obtain ⟨name, bounds, countdown, point⟩ := worker
  cases point with
  | polling session cycle stage =>
    cases stage with
    | claiming queue rest notBefore begun =>
      rcases answer with error | _ | row
      · trivial
      · trivial
      · exact fun job hreads ↦ World.Handles.point_of_reads hreads
    | beginning | probing | bounding | replanning | abandoning => trivial
  | working session job stage =>
    cases stage with
    | saving =>
      have hlooks : (⟨shared, ⟨name, bounds, countdown, .working session job .saving⟩, []⟩ :
          Turn α).looksForDuplicates duties moment = true := by
        simp only [Turn.looksForDuplicates, hdeduplicator, hclosed trivial, Bool.and_true]
        simpa using hpositions
      rcases answer with error | ⟨⟩
      · simp [Point.Heeds, Point.JobHeeds, Worker.resume, Turn.resume, Turn.resumeJob,
          Turn.afterCommand, Turn.failJob]
      · simp [Point.Heeds, Point.JobHeeds, Worker.resume, Turn.resume, Turn.resumeJob,
          Turn.afterCommand, Turn.endSave, hlooks]
    | deduplicating begun =>
      rcases answer with error | rows
      · trivial
      · exact fun payload hpayload ↦ Turn.endDuplicates_point hpayload begun
    | delivering | releasing | committingSuccess | undoing | puttingOff | committingPutOff
      | puttingBack | committingPutBack | committingClaim | beginningArchive | archiving
      | committingArchive => trivial
  | idle | starting | atConnectGate | connecting | atFailureGate | asleep | rollingBack | closing
    | crashed => trivial

/-- Only the answer to a commit changes the tables. -/
theorem Server.tables_of_answer {server server' : Server} {now : Instant} {chance : Chance}
    {session : Nat} {statement : Statement} {answer : Except DatabaseError statement.Reply}
    (hstatement : statement ≠ .command .commit)
    (hanswer : server.answer now chance (.execute session statement : Call α) =
      (server', some answer)) : server'.store.tables = server.store.tables := by
  have htables := @tables_exchange server session now chance.mishap _ hstatement
  rwa [exchange_of_answer hanswer] at htables

/-! ## Errands -/

/-- A row that is claimed on a connection, with the job that it holds. -/
structure Errand (duties : Duties α) where
  session : Nat
  entry : Entry
  job : Job α
  reads : duties.Reads entry.row job

namespace Errand

variable (errand : Errand duties) (deduplicator : Deduplicator α)

/-- A duplicate of the claimed job: a row of the same queue that is committed, has not been claimed
itself and is locked by nobody else. It holds what the claimed job holds in the columns that count,
and it is eligible unless rows that are put off are taken as well. -/
structure IsDuplicate (store : Store) (now : Instant) (entry : Entry) : Prop where
  mem : entry ∈ store.queue
  visible : entry.visibleFrom ≤ now
  remains : entry.number ≠ errand.entry.number
  unlocked : ∀ other ≠ errand.session,
    entry.number ∉ (store.transaction other).changes.deleted
  queue : entry.row.queue = errand.entry.row.queue
  agrees : ∀ pair ∈ deduplicator.key errand.job.payload,
    ∃ cell, entry.row.job[pair.1]? = some cell ∧ cell.equals pair.2 = true
  eligible : duties.settings.includePostponedDuplicates = true ∨ entry.row.dequeueAfter ≤ now

def numbers (taken : List Entry) : List Nat :=
  errand.entry.number :: taken.map Entry.number

/-- What a transaction has changed when it has deleted the claimed row and some others, and the
handler has written. -/
def changes (taken : List Entry) (noted : List (Nat × String)) : Changes :=
  ⟨errand.numbers taken, [], [], noted⟩

/-- A lookup takes some rows: every duplicate, each once, and nothing else. -/
structure Takes (lookup : Lookup) (taken : List Entry) : Prop where
  rows : lookup.rows = taken.map Entry.row
  exact : ∀ entry, entry ∈ taken ↔ errand.IsDuplicate deduplicator lookup.before lookup.now entry
  nodup : (errand.numbers taken).Nodup
  deleted : (lookup.after.transaction errand.session).changes.deleted = errand.numbers taken

/-- A job is the claimed one with the jobs of some rows merged into it, one after another. -/
structure Merges (rows : List Row) (job : Job α) : Prop where
  details : job.details = errand.job.details
  payload : rows.foldlM (duties.mergeRow deduplicator) errand.job.payload = some job.payload

def cleared (taken : List Entry) (noted : List (Nat × String)) (tables : Tables) : Tables where
  queue := tables.queue.filter (· ∉ errand.entry :: taken)
  archive := tables.archive
  notes := Store.placeAll Prod.fst noted tables.notes

/-- The claimed row and its duplicates have gone from the tables, and nothing else has. -/
structure Clears (trail : Trail) (lookup : Lookup) (taken : List Entry) (before : Tables)
    (noted : List (Nat × String)) : Prop where
  lookups : trail.lookups = [lookup]
  takes : errand.Takes deduplicator lookup taken
  held : errand.entry :: taken ⊆ before.queue
  written : noted.map Prod.snd = trail.written
  changes : trail.changes = [(before, errand.cleared taken noted before)]

/-! ### What is relied on -/

/-- The rows of an errand are in the queue, and its transaction is in some state, unless the
connection is gone. -/
def Keeps (server : Server) (taken : List Entry) (state : Transaction → Prop) : Prop :=
  server.isLive errand.session = true →
    errand.entry :: taken ⊆ server.store.queue ∧ state (server.store.transaction errand.session)

/-- The transaction after the handler has written. It may have failed since. -/
def IsSaved (taken : List Entry) (written : List String) (transaction : Transaction) : Prop :=
  (∃ noted, noted.map Prod.snd = written ∧
    transaction = .active (errand.changes taken noted) (some (errand.changes [] []))) ∨
  ∃ noted, transaction = .failed (errand.changes taken noted) (some (errand.changes [] []))

/-- The transaction of an accepted job. -/
def IsReleased (taken : List Entry) (written : List String) (transaction : Transaction) : Prop :=
  ∃ noted, noted.map Prod.snd = written ∧
    transaction = .active (errand.changes taken noted) none

structure Awaits (trail : Trail) (server : Server) (job : Job α) (savepoint : Option Changes) :
    Prop where
  blank : trail = .blank
  unmerged : job = errand.job
  keeps : errand.Keeps server [] (· = .active (errand.changes [] []) savepoint)

/-- The duplicates have been merged into the job, and nothing is committed. -/
structure Bears (trail : Trail) (server : Server) (reception? : Option Reception)
    (state : List Entry → List String → Transaction → Prop) (job : Job α) (lookup : Lookup)
    (taken : List Entry) : Prop where
  lookups : trail.lookups = [lookup]
  takes : errand.Takes deduplicator lookup taken
  merges : errand.Merges deduplicator lookup.rows job
  unchanged : trail.changes = []
  heard : trail.reception? = reception?
  keeps : errand.Keeps server taken (state taken trail.written)

/-- The duplicates have been merged into the job, but the handler has not accepted it. -/
structure Declines (trail : Trail) (job : Job α) (lookup : Lookup) (taken : List Entry) :
    Prop where
  lookups : trail.lookups = [lookup]
  takes : errand.Takes deduplicator lookup taken
  merges : errand.Merges deduplicator lookup.rows job
  heard : trail.reception?.isSome = true
  declined : trail.reception? ≠ some .accepted

/-- What holds of an errand in the end. -/
structure Settles (trail : Trail) : Prop where
  takes : ∀ lookup ∈ trail.lookups, ∃ taken, errand.Takes deduplicator lookup taken
  handed : trail.isSmooth = true → ∃ lookup, trail.lookups = [lookup] ∧
    ((∃ job, errand.Merges deduplicator lookup.rows job) → trail.reception?.isSome = true)
  accepted : trail.isSmooth = true → trail.reception? = some .accepted →
    ∃ lookup taken before noted, errand.Clears deduplicator trail lookup taken before noted
  unread : ∀ lookup ∈ trail.lookups,
    (∃ row ∈ lookup.rows, ¬ ∃ job, duties.Reads row job) → trail.changes = []

/-- Where an errand may bring its job. -/
def ReachesStage (trail : Trail) (server : Server) (job : Job α) : JobStage → Prop
  | .saving => errand.Awaits trail server job none
  | .deduplicating _ => errand.Awaits trail server job (some (errand.changes [] []))
  | .delivering => ∃ lookup taken,
    errand.Bears deduplicator trail server none errand.IsSaved job lookup taken
  | .releasing => ∃ lookup taken,
    errand.Bears deduplicator trail server (some .accepted) errand.IsSaved job lookup taken
  | .committingSuccess => ∃ lookup taken,
    errand.Bears deduplicator trail server (some .accepted) errand.IsReleased job lookup taken
  | .undoing _ | .puttingOff .. | .committingPutOff _ | .puttingBack .. | .committingPutBack _
  | .committingClaim _ | .beginningArchive _ | .archiving .. | .committingArchive _ =>
    ∃ lookup taken, errand.Declines deduplicator trail job lookup taken

/-- Where an errand may bring its worker. -/
def Reaches (trail : Trail) (server : Server) : Point α → Prop
  | .working session job stage =>
    session = errand.session ∧ errand.ReachesStage deduplicator trail server job stage
  | .rollingBack session _ => session = errand.session ∧ errand.Settles deduplicator trail
  | _ => errand.Settles deduplicator trail

variable {errand : Errand duties} {deduplicator : Deduplicator α} {trail : Trail}
  {server server' : Server} {store : Store} {taken : List Entry} {lookup : Lookup}
  {job : Job α} {stage : JobStage} {now : Instant} {chance : Chance} {bounds bounds' : Bounds}
  {point : Point α}

/-! ## Taking duplicates -/

theorem queue_eq (errand : Errand duties) :
    errand.job.details.queue = errand.entry.row.queue := by
  obtain ⟨_, _, -, -, hdetails⟩ := Row.metadata_eq_ok errand.reads.1
  rw [hdetails]

/-- The rows that a removal of duplicates takes in the transaction of an errand are the duplicates
of the claimed job. -/
theorem mem_duplicates_iff (hsound : store.Sound) {savepoint : Option Changes}
    (hactive : store.transaction errand.session = .active (errand.changes [] []) savepoint)
    {entry : Entry} :
    entry ∈ store.duplicates errand.session errand.job.details.queue
        (deduplicator.key errand.job.payload) duties.settings.includePostponedDuplicates now ↔
      errand.IsDuplicate deduplicator store now entry := by
  have hlocked : store.isLocked errand.session entry.number = false ↔
      ∀ other ≠ errand.session, entry.number ∉ (store.transaction other).changes.deleted :=
    ⟨fun h _ hother ↦ Store.not_mem_deleted_of_isLocked h hother, hsound.isLocked_eq_false⟩
  have hagrees : Store.agrees entry.row.job (deduplicator.key errand.job.payload) = true ↔
      ∀ pair ∈ deduplicator.key errand.job.payload,
        ∃ cell, entry.row.job[pair.1]? = some cell ∧ cell.equals pair.2 = true := by
    simp only [Store.agrees, List.all_eq_true]
    refine forall₂_congr fun pair _ ↦ ?_
    cases entry.row.job[pair.1]? <;> simp
  have hvisible : entry ∈ store.visible errand.session now ↔
      entry ∈ store.queue ∧ entry.number ≠ errand.entry.number ∧ entry.visibleFrom ≤ now := by
    simp [Store.mem_visible, hactive, Transaction.changes, changes, numbers]
  simp only [Store.duplicates, List.mem_filter, Store.mem_takable, hvisible, hlocked, hagrees,
    Bool.and_eq_true, Bool.or_eq_true, beq_iff_eq, decide_eq_true_eq, errand.queue_eq]
  constructor
  · rintro ⟨⟨⟨hmem, hremains, hvisible⟩, hunlocked⟩, ⟨hqueue, hagrees⟩, heligible⟩
    exact ⟨hmem, hvisible, hremains, hunlocked, hqueue, hagrees, heligible⟩
  · rintro ⟨hmem, hvisible, hremains, hunlocked, hqueue, hagrees, heligible⟩
    exact ⟨⟨⟨hmem, hremains, hvisible⟩, hunlocked⟩, ⟨hqueue, hagrees⟩, heligible⟩

/-- The lookup of an errand takes the duplicates. -/
theorem takes_of_perform (hsound : store.Sound) {savepoint : Option Changes}
    (hactive : store.transaction errand.session = .active (errand.changes [] []) savepoint)
    {values : List (Nat × Cell)} (hvalues : values = deduplicator.key errand.job.payload)
    {store' : Store} {rows : List Row}
    (hperform : store.perform errand.session now
      (.takeDuplicates errand.job.details.queue values
        duties.settings.includePostponedDuplicates) = (store', .ok rows)) :
    ∃ taken, errand.Takes deduplicator ⟨now, store, store', rows⟩ taken ∧
      taken ⊆ store.queue ∧
      store'.transaction errand.session = .active (errand.changes taken []) savepoint := by
  subst hvalues
  rw [Store.perform_of_active now hactive] at hperform
  have htransaction := (congrArg (·.1.transaction errand.session) hperform).symm.trans
    (Store.transaction_delete hactive _)
  have hrows := Except.ok.inj (congrArg Prod.snd hperform)
  refine ⟨_, ⟨hrows.symm, fun _ ↦ mem_duplicates_iff hsound hactive, ?_, ?_⟩, ?_, htransaction⟩
  · exact hsound.nodup_duplicates (by rw [hactive]; rfl)
      (by simp [hactive, Transaction.changes, changes, numbers])
  · exact congrArg (·.changes.deleted) htransaction
  · exact fun entry hentry ↦ ((mem_duplicates_iff hsound hactive).1 hentry).mem

/-- The tables after the commit of an errand's changes. -/
theorem tables_apply (hsound : store.Sound) (hheld : errand.entry :: taken ⊆ store.queue)
    (noted : List (Nat × String)) :
    (store.apply (errand.changes taken noted)).tables =
      errand.cleared taken noted store.tables := by
  have hnodup : (store.queue.map Entry.number).Nodup := (List.nodup_append.1 hsound.nodup).1
  -- Rows are deleted by number, and no two rows of the queue have the same one.
  have hqueue : (store.queue.filter fun entry ↦ !(errand.numbers taken).contains entry.number) =
      store.queue.filter (· ∉ errand.entry :: taken) := by
    refine List.filter_congr fun entry hentry ↦ ?_
    have hiff : entry.number ∈ errand.numbers taken ↔ entry ∈ errand.entry :: taken := by
      refine ⟨fun hnumber ↦ ?_, fun hmem ↦ List.mem_map_of_mem hmem⟩
      have hmapped : entry.number ∈ (errand.entry :: taken).map Entry.number := hnumber
      obtain ⟨other, hother, hsame⟩ := List.mem_map.1 hmapped
      exact List.inj_on_of_nodup_map hnodup (hheld hother) hentry hsame ▸ hother
    simp only [List.contains_eq_mem, hiff, decide_not]
  simp only [Store.tables, Store.apply, changes, cleared, Store.placeAll_nil, hqueue]

/-- Clearing changes the tables, because the claimed row was there. -/
theorem cleared_ne {tables : Tables} (hheld : errand.entry ∈ tables.queue)
    (noted : List (Nat × String)) : errand.cleared taken noted tables ≠ tables := by
  intro hsame
  have hmem : errand.entry ∈ (errand.cleared taken noted tables).queue := by
    rw [hsame]
    exact hheld
  simp [cleared] at hmem

/-! ## The end of an errand -/

/-- Rows whose jobs have been merged can all be read. -/
theorem Merges.reads {rows : List Row} (h : errand.Merges deduplicator rows job) {row : Row}
    (hrow : row ∈ rows) : ∃ skipped, duties.Reads row skipped := by
  obtain ⟨-, hpayload⟩ := h
  generalize errand.job.payload = payload at hpayload
  induction rows generalizing payload with
  | nil => cases hrow
  | cons first rest ih =>
    rw [List.foldlM_cons] at hpayload
    obtain ⟨merged, hmerged, hrest⟩ := Option.bind_eq_some_iff.1 hpayload
    rcases List.mem_cons.1 hrow with rfl | hmem
    · unfold Duties.mergeRow at hmerged
      split at hmerged
      · next details skipped hdetails hskipped => exact ⟨⟨details, skipped⟩, hdetails, hskipped⟩
      · cases hmerged
    · exact ih hmem merged hrest

/-- A statement has failed before anything was committed. -/
theorem settles_of_rough (hsmooth : trail.isSmooth = false)
    (htakes : ∀ lookup ∈ trail.lookups, ∃ taken, errand.Takes deduplicator lookup taken)
    (hunread : ∀ lookup ∈ trail.lookups,
      (∃ row ∈ lookup.rows, ¬ ∃ job, duties.Reads row job) → trail.changes = []) :
    errand.Settles deduplicator trail where
  takes := htakes
  handed h := absurd (h.symm.trans hsmooth) (by decide)
  accepted h := absurd (h.symm.trans hsmooth) (by decide)
  unread := hunread

/-- Where the rows of a lookup have been merged, an errand comes to a good end if the handler has
heard of the job, and if the rows are gone when it has accepted it. -/
theorem settles_of_merges (hlookups : trail.lookups = [lookup])
    (htakes : errand.Takes deduplicator lookup taken)
    (hmerges : errand.Merges deduplicator lookup.rows job)
    (hheard : trail.reception?.isSome = true)
    (haccepted : trail.reception? = some .accepted →
      ∃ lookup taken before noted, errand.Clears deduplicator trail lookup taken before noted) :
    errand.Settles deduplicator trail where
  takes other hother := by
    rw [hlookups, List.mem_singleton] at hother
    exact ⟨taken, hother ▸ htakes⟩
  handed _ := ⟨lookup, hlookups, fun _ ↦ hheard⟩
  accepted _ := haccepted
  unread other hother := by
    rintro ⟨row, hrow, hunread⟩
    rw [hlookups, List.mem_singleton] at hother
    exact absurd (hmerges.reads (hother ▸ hrow)) hunread

/-- Some of the duplicates cannot be merged. -/
theorem settles_of_unmerged (htakes : errand.Takes deduplicator lookup taken)
    (hunmerged : ¬ ∃ job, errand.Merges deduplicator lookup.rows job) :
    errand.Settles deduplicator { Trail.blank with lookups := [lookup] } where
  takes _ hother := ⟨taken, List.mem_singleton.1 hother ▸ htakes⟩
  handed _ := ⟨lookup, rfl, fun hmerges ↦ absurd hmerges hunmerged⟩
  accepted _ h := nomatch h
  unread _ _ _ := rfl

theorem Declines.settles (h : errand.Declines deduplicator trail job lookup taken) :
    errand.Settles deduplicator trail :=
  settles_of_merges h.lookups h.takes h.merges h.heard fun haccepted ↦ absurd haccepted h.declined

theorem Settles.interrupted (h : errand.Settles deduplicator trail) :
    errand.Settles deduplicator { trail with isSmooth := false } :=
  settles_of_rough rfl h.takes h.unread

/-- A statement fails. -/
theorem ReachesStage.interrupted (h : errand.ReachesStage deduplicator trail server job stage) :
    errand.Settles deduplicator { trail with isSmooth := false } := by
  cases stage with
  | saving | deduplicating =>
    obtain ⟨rfl, -, -⟩ := h
    exact settles_of_rough rfl (fun _ h ↦ absurd h List.not_mem_nil) fun _ _ _ ↦ rfl
  | delivering | releasing | committingSuccess =>
    obtain ⟨lookup, taken, hbears⟩ := h
    refine settles_of_rough rfl (fun other hother ↦ ⟨taken, ?_⟩) fun _ _ _ ↦ hbears.unchanged
    rw [hbears.lookups, List.mem_singleton] at hother
    exact hother ▸ hbears.takes
  | undoing | puttingOff | committingPutOff | puttingBack | committingPutBack | committingClaim
    | beginningArchive | archiving | committingArchive =>
    obtain ⟨lookup, taken, hdeclines⟩ := h
    exact hdeclines.settles.interrupted

/-- An errand on which a statement fails is settled. -/
theorem Reaches.interrupted (h : errand.Reaches deduplicator trail server point) :
    errand.Settles deduplicator { trail with isSmooth := false } := by
  cases point with
  | working => exact h.2.interrupted
  | rollingBack => exact h.2.interrupted
  | idle | starting | atConnectGate | connecting | atFailureGate | asleep | polling | closing
    | crashed => exact Settles.interrupted h

theorem reaches_of_rests (h : Point.IsResting errand.session point)
    (hsettles : errand.Settles deduplicator trail) :
    errand.Reaches deduplicator trail server point := by
  cases point with
  | closing | atFailureGate | asleep | polling => exact hsettles
  | idle | starting | atConnectGate | connecting | working | rollingBack | crashed => exact h.elim

theorem reaches_of_goes (h : Point.Goes errand.session job bounds stage bounds' point)
    (hreaches : errand.ReachesStage deduplicator trail server job stage) :
    errand.Reaches deduplicator trail server point := by
  rw [h.2]
  exact ⟨rfl, hreaches⟩

theorem reaches_of_fails (h : Point.Fails errand.session bounds bounds' point)
    (hsettles : errand.Settles deduplicator trail) :
    errand.Reaches deduplicator trail server point := by
  obtain ⟨-, fault, rfl⟩ := h
  exact ⟨rfl, hsettles⟩

/-! ## From stage to stage -/

theorem answered_of_tables {call : Call α} {answer : call.Answer}
    (htables : server'.store.tables = server.store.tables) :
    trail.answered now server server' call answer =
      ⟨trail.toJournal.answered now call (some answer),
        (call.lookup? now server.store server'.store (some answer)).toList ++ trail.lookups,
        trail.changes⟩ := by
  simp only [Trail.answered, htables, if_true]

/-- All that a failing statement leaves on the trail is that it has failed. -/
theorem answered_of_error {statement : Statement} {error : DatabaseError}
    (hanswer : server.answer now chance (.execute errand.session statement : Call α) =
      (server', some (.error error))) :
    trail.answered now server server' (.execute errand.session statement : Call α)
      (.error error) = { trail with isSmooth := false } := by
  have hexchange := Server.exchange_of_answer hanswer
  have htables := Server.tables_exchange_of_error (congrArg Prod.snd hexchange)
  rw [hexchange] at htables
  rw [answered_of_tables htables]
  cases statement with
  | command order => cases order <;> rfl
  | oldest | recent | claim | takeDuplicates | putBack | putOff | archive | note => rfl

/-- A failing statement settles the errand. -/
theorem fails (h : errand.ReachesStage deduplicator trail server job stage) {statement : Statement}
    {error : DatabaseError}
    (hanswer : server.answer now chance (.execute errand.session statement : Call α) =
      (server', some (.error error)))
    (hleads : Point.Fails errand.session bounds bounds' point) :
    errand.Reaches deduplicator
      (trail.answered now server server' (.execute errand.session statement : Call α)
        (.error error)) server' point := by
  rw [answered_of_error hanswer]
  exact reaches_of_fails hleads h.interrupted

/-- A statement that succeeds has been carried out in the state that is relied on. -/
theorem Keeps.performed {state : Transaction → Prop} (h : errand.Keeps server taken state)
    {statement : Statement} {reply : statement.Reply}
    (hanswer : server.answer now chance (.execute errand.session statement : Call α) =
      (server', some (.ok reply))) :
    errand.entry :: taken ⊆ server.store.queue ∧
      state (server.store.transaction errand.session) ∧
      ∃ reply', Server.Repeats statement reply reply' ∧
        server.store.perform errand.session now statement = (server'.store, .ok reply') := by
  have hexchange := Server.exchange_of_answer hanswer
  obtain ⟨hlive, -, hperform⟩ := Server.exchange_of_ok (congrArg Prod.snd hexchange)
  rw [hexchange] at hperform
  exact ⟨(h hlive).1, (h hlive).2, hperform⟩

theorem keeps_of_tables {state : Transaction → Prop}
    (htables : server'.store.tables = server.store.tables)
    (hheld : errand.entry :: taken ⊆ server.store.queue)
    (hstate : state (server'.store.transaction errand.session)) :
    errand.Keeps server' taken state := by
  have hqueue : server'.store.queue = server.store.queue := congrArg Tables.queue htables
  exact fun _ ↦ ⟨hqueue ▸ hheld, hstate⟩

/-- The savepoint comes before the lookup of duplicates. -/
theorem Awaits.save (h : errand.Awaits trail server job none)
    (hanswer : server.answer now chance
      (.execute errand.session (.command .setSavepoint) : Call α) = (server', some (.ok ()))) :
    errand.Awaits (trail.answered now server server'
      (.execute errand.session (.command .setSavepoint) : Call α) (.ok ())) server' job
      (some (errand.changes [] [])) := by
  obtain ⟨rfl, hjob, hkeeps⟩ := h
  obtain ⟨hheld, hactive, _, -, hperform⟩ := hkeeps.performed hanswer
  have htables := Server.tables_of_answer (by decide) hanswer
  rw [Store.perform_setSavepoint now hactive] at hperform
  have hstore : server.store.setTransaction errand.session
      (.active (errand.changes [] []) (some (errand.changes [] []))) = server'.store :=
    congrArg Prod.fst hperform
  refine ⟨answered_of_tables htables, hjob, keeps_of_tables htables hheld ?_⟩
  rw [← hstore, Store.transaction_setTransaction_self]

/-- The duplicates are taken. -/
theorem Awaits.look (h : errand.Awaits trail server job (some (errand.changes [] [])))
    (hdeduplicator : duties.deduplicator = some deduplicator) (hserver : server.Sound)
    {begun : Instant} {rows : List Row}
    (hanswer : server.answer now chance
      (Point.jobCall duties errand.session job (.deduplicating begun)) =
      (server', some (.ok rows))) :
    ∃ taken, errand.Takes deduplicator ⟨now, server.store, server'.store, rows⟩ taken ∧
      errand.Keeps server' taken (errand.IsSaved taken []) ∧
      trail.answered now server server'
        (Point.jobCall duties errand.session job (.deduplicating begun)) (.ok rows) =
        { Trail.blank with lookups := [⟨now, server.store, server'.store, rows⟩] } := by
  obtain ⟨rfl, rfl, hkeeps⟩ := h
  obtain ⟨hheld, hactive, rows', hrows, hperform⟩ := hkeeps.performed hanswer
  obtain rfl : rows = rows' := hrows
  have htables := Server.tables_of_answer (by simp) hanswer
  have hvalues : Point.duplicateKey duties errand.job = deduplicator.key errand.job.payload := by
    simp only [Point.duplicateKey, hdeduplicator]
  obtain ⟨taken, htakes, htaken, htransaction⟩ :=
    takes_of_perform hserver.store hactive hvalues hperform
  refine ⟨taken, htakes, keeps_of_tables htables ?_ (.inl ⟨[], rfl, htransaction⟩),
    answered_of_tables htables⟩
  exact List.cons_subset.2 ⟨hheld List.mem_cons_self, htaken⟩

/-- The release of the savepoint keeps the changes of an accepted job. -/
theorem Bears.release
    (h : errand.Bears deduplicator trail server (some .accepted) errand.IsSaved job lookup taken)
    (hanswer : server.answer now chance
      (.execute errand.session (.command .releaseSavepoint) : Call α) = (server', some (.ok ()))) :
    errand.Bears deduplicator (trail.answered now server server'
      (.execute errand.session (.command .releaseSavepoint) : Call α) (.ok ())) server'
      (some .accepted) errand.IsReleased job lookup taken := by
  obtain ⟨hheld, hsaved, _, -, hperform⟩ := h.keeps.performed hanswer
  have htables := Server.tables_of_answer (by decide) hanswer
  rw [answered_of_tables htables]
  refine ⟨h.lookups, h.takes, h.merges, h.unchanged, h.heard, keeps_of_tables htables hheld ?_⟩
  obtain ⟨noted, hnoted, hactive⟩ | ⟨noted, hfailed⟩ := hsaved
  · rw [Store.perform_releaseSavepoint now hactive] at hperform
    have hstore : server.store.setTransaction errand.session
        (.active (errand.changes taken noted) none) = server'.store := congrArg Prod.fst hperform
    rw [← hstore, Store.transaction_setTransaction_self]
    exact ⟨noted, hnoted, rfl⟩
  · rw [Store.perform_of_failed now hfailed rfl] at hperform
    cases congrArg Prod.snd hperform

/-- The commit of an accepted job removes the claimed row and its duplicates. -/
theorem Bears.accept
    (h : errand.Bears deduplicator trail server (some .accepted) errand.IsReleased job lookup taken)
    (hserver : server.Sound)
    (hanswer : server.answer now chance
      (.execute errand.session (.command .commit) : Call α) = (server', some (.ok ()))) :
    ∃ noted, errand.Clears deduplicator (trail.answered now server server'
      (.execute errand.session (.command .commit) : Call α) (.ok ())) lookup taken
      server.store.tables noted := by
  obtain ⟨hheld, ⟨noted, hnoted, hactive⟩, _, -, hperform⟩ := h.keeps.performed hanswer
  rw [Store.perform_commit now hactive] at hperform
  have hstore : (server.store.apply (errand.changes taken noted)).setTransaction errand.session
      .idle = server'.store := congrArg Prod.fst hperform
  have htables : server'.store.tables = errand.cleared taken noted server.store.tables := by
    rw [← hstore, Store.tables_setTransaction, tables_apply hserver.store hheld]
  have hchanged : errand.cleared taken noted server.store.tables ≠ server.store.tables :=
    cleared_ne (hheld List.mem_cons_self) noted
  refine ⟨noted, h.lookups, h.takes, hheld, hnoted, ?_⟩
  simp only [Trail.answered, htables, if_neg hchanged, h.unchanged]

/-- An answer to a worker whose handler has not accepted the job. -/
theorem Declines.answered (h : errand.Declines deduplicator trail job lookup taken)
    {statement : Statement} {answer : Except DatabaseError statement.Reply}
    (hstatement : ∀ queue values includePostponed,
      statement ≠ .takeDuplicates queue values includePostponed) :
    errand.Declines deduplicator (trail.answered now server server'
      (.execute errand.session statement : Call α) answer) job lookup taken := by
  have hlookup : (Call.execute errand.session statement : Call α).lookup? now server.store
      server'.store (some answer) = none := by
    cases statement with
    | takeDuplicates => exact absurd rfl (hstatement _ _ _)
    | command | oldest | recent | claim | putBack | putOff | archive | note => rfl
  have hheard : (trail.toJournal.answered now (.execute errand.session statement : Call α)
      (some answer)).reception? = trail.reception? := by
    cases answer <;> cases statement with
    | command order => cases order <;> rfl
    | oldest | recent | claim | takeDuplicates | putBack | putOff | archive | note => rfl
  exact ⟨by simp only [Trail.answered, hlookup, Option.toList_none, List.nil_append, h.lookups],
    h.takes, h.merges, (congrArg Option.isSome hheard).trans h.heard, hheard.trans_ne h.declined⟩

/-- The work on the job goes on according to its failure. -/
theorem Declines.disposes (h : errand.Declines deduplicator trail job lookup taken)
    {failure : JobFailure}
    (hleads : Point.Disposes duties errand.session job failure bounds bounds' point) :
    errand.Reaches deduplicator trail server point := by
  unfold Point.Disposes at hleads
  split at hleads
  · obtain ⟨begun, hleads⟩ := hleads
    exact reaches_of_goes hleads ⟨lookup, taken, h⟩
  · obtain ⟨begun, hleads⟩ := hleads
    exact reaches_of_goes hleads ⟨lookup, taken, h⟩
  · exact reaches_of_goes hleads ⟨lookup, taken, h⟩

/-- Once the duplicates are taken, the job is delivered with all of them merged, or not at all. -/
theorem ReachesStage.looks (hdeduplicator : duties.deduplicator = some deduplicator)
    {begun : Instant} {rows : List Row}
    (h : errand.ReachesStage deduplicator trail server job (.deduplicating begun))
    (hserver : server.Sound)
    (hanswer : server.answer now chance
      (Point.jobCall duties errand.session job (.deduplicating begun)) =
      (server', some (.ok rows)))
    (hleads : Point.JobLeads duties bounds errand.session job (.deduplicating begun) (.ok rows)
      bounds' point)
    (hheeds : Point.JobHeeds duties errand.session job (.deduplicating begun) (.ok rows) point) :
    errand.Reaches deduplicator (trail.answered now server server'
      (Point.jobCall duties errand.session job (.deduplicating begun)) (.ok rows)) server'
      point := by
  obtain ⟨taken, htakes, hkeeps, htrail⟩ := Awaits.look h hdeduplicator hserver hanswer
  rw [htrail]
  obtain rfl := h.unmerged
  cases hpayload : duties.mergeRows errand.job.payload rows with
  | some payload =>
    obtain rfl := hheeds payload hpayload
    simp only [Duties.mergeRows, hdeduplicator] at hpayload
    exact ⟨rfl, _, taken, rfl, htakes, ⟨rfl, hpayload⟩, rfl, rfl, hkeeps⟩
  | none =>
    -- The worker rolls back or dies, and the handler never hears of the job.
    have hunmerged : ¬ ∃ job, errand.Merges deduplicator rows job := by
      rintro ⟨job, -, hmerged⟩
      simp [Duties.mergeRows, hdeduplicator, hmerged] at hpayload
    have hsettles := settles_of_unmerged htakes hunmerged
    rcases hleads with ⟨payload, hmerged, -⟩ | hleads | ⟨-, text, rfl⟩
    · cases hmerged.symm.trans hpayload
    · exact reaches_of_fails hleads hsettles
    · exact hsettles

/-- The handler accepts the job, or it declines. -/
theorem ReachesStage.hears {reception : Reception}
    (h : errand.ReachesStage deduplicator trail server job .delivering)
    (hanswer : server.answer now chance (.deliver errand.session job : Call α) =
      (server', some reception))
    (hleads : Point.JobLeads duties bounds errand.session job .delivering reception bounds' point) :
    errand.Reaches deduplicator (trail.answered now server server'
      (.deliver errand.session job : Call α) reception) server' point := by
  obtain ⟨lookup, taken, hbears⟩ := h
  obtain ⟨rfl, -⟩ := Prod.mk.inj hanswer
  rw [answered_of_tables rfl]
  cases hfailure : reception.failure? with
  | none =>
    obtain rfl : reception = .accepted := by
      rcases reception with _ | failure | _ | text <;> first | rfl | cases hfailure
    exact reaches_of_goes hleads ⟨lookup, taken, hbears.lookups, hbears.takes, hbears.merges,
      hbears.unchanged, rfl, hbears.keeps⟩
  | some failure =>
    simp only [Point.JobLeads, hfailure] at hleads
    refine reaches_of_goes hleads
      ⟨lookup, taken, hbears.lookups, hbears.takes, hbears.merges, rfl, fun haccepted ↦ ?_⟩
    obtain rfl : reception = .accepted := Option.some.inj haccepted
    cases hfailure

/-- The commit of an accepted job clears the claimed row and its duplicates from the tables. -/
theorem ReachesStage.accepts
    (h : errand.ReachesStage deduplicator trail server job .committingSuccess)
    (hserver : server.Sound)
    (hanswer : server.answer now chance
      (.execute errand.session (.command .commit) : Call α) = (server', some (.ok ()))) :
    errand.Settles deduplicator (trail.answered now server server'
      (.execute errand.session (.command .commit) : Call α) (.ok ())) := by
  obtain ⟨lookup, taken, hbears⟩ := h
  obtain ⟨noted, hclears⟩ := hbears.accept hserver hanswer
  exact settles_of_merges hclears.lookups hclears.takes hbears.merges
    (congrArg Option.isSome hbears.heard) fun _ ↦ ⟨lookup, taken, _, noted, hclears⟩

/-- Wherever an answer leads, the errand goes on or comes to a good end. -/
theorem ReachesStage.answered (hdeduplicator : duties.deduplicator = some deduplicator)
    (h : errand.ReachesStage deduplicator trail server job stage) (hserver : server.Sound)
    {answer : (Point.jobCall duties errand.session job stage).Answer}
    (hanswer : server.answer now chance (Point.jobCall duties errand.session job stage) =
      (server', some answer))
    (hleads : Point.JobLeads duties bounds errand.session job stage answer bounds' point)
    (hheeds : Point.JobHeeds duties errand.session job stage answer point) :
    errand.Reaches deduplicator
      (trail.answered now server server' (Point.jobCall duties errand.session job stage) answer)
      server' point := by
  cases stage with
  | saving =>
    rcases answer with error | ⟨⟩
    · exact fails h hanswer hleads
    · rcases hleads with hleads | ⟨-, begun, hleads⟩
      · exact absurd hleads.2 hheeds
      · exact reaches_of_goes hleads (Awaits.save h hanswer)
  | deduplicating begun =>
    rcases answer with error | rows
    · exact fails h hanswer hleads
    · exact h.looks hdeduplicator hserver hanswer hleads hheeds
  | delivering => exact h.hears hanswer hleads
  | releasing =>
    rcases answer with error | ⟨⟩
    · exact fails h hanswer hleads
    · obtain ⟨lookup, taken, hbears⟩ := h
      exact reaches_of_goes hleads ⟨lookup, taken, hbears.release hanswer⟩
  | committingSuccess =>
    rcases answer with error | ⟨⟩
    · exact fails h hanswer hleads
    · exact reaches_of_rests hleads.1 (h.accepts hserver hanswer)
  | undoing failure =>
    rcases answer with error | ⟨⟩
    · exact fails h hanswer hleads
    · obtain ⟨lookup, taken, hdeclines⟩ := h
      exact (hdeclines.answered (by simp)).disposes hleads
  | puttingOff | puttingBack | committingClaim | archiving =>
    rcases answer with error | reply
    · exact fails h hanswer hleads
    · obtain ⟨lookup, taken, hdeclines⟩ := h
      exact reaches_of_goes hleads ⟨lookup, taken, hdeclines.answered (by simp)⟩
  | beginningArchive failure =>
    rcases answer with error | ⟨⟩
    · exact fails h hanswer hleads
    · obtain ⟨lookup, taken, hdeclines⟩ := h
      obtain ⟨begun, hleads⟩ := hleads
      exact reaches_of_goes hleads ⟨lookup, taken, hdeclines.answered (by simp)⟩
  | committingPutOff | committingPutBack | committingArchive =>
    rcases answer with error | ⟨⟩
    · exact fails h hanswer hleads
    · obtain ⟨lookup, taken, hdeclines⟩ := h
      exact reaches_of_rests hleads.1 (hdeclines.answered (by simp)).settles

/-- A rollback ends an errand, whether or not it succeeds. -/
theorem Settles.rolledBack (h : errand.Settles deduplicator trail)
    {answer : Except DatabaseError Unit}
    (hanswer : server.answer now chance
      (.execute errand.session (.command .rollback) : Call α) = (server', some answer)) :
    errand.Settles deduplicator (trail.answered now server server'
      (.execute errand.session (.command .rollback) : Call α) answer) := by
  cases answer with
  | ok =>
    rw [answered_of_tables (Server.tables_of_answer (by decide) hanswer)]
    exact h
  | error error =>
    rw [answered_of_error hanswer]
    exact h.interrupted

/-- The handler writes. Its statement may fail, and the transaction with it. -/
theorem Bears.write
    (h : errand.Bears deduplicator trail server none errand.IsSaved job lookup taken)
    (mishap : Option Mishap) (text : String) :
    errand.Bears deduplicator { trail with written := trail.written ++ [text] }
      (server.exchange errand.session now mishap (.note text)).1 none errand.IsSaved job lookup
      taken where
  lookups := h.lookups
  takes := h.takes
  merges := h.merges
  unchanged := h.unchanged
  heard := h.heard
  keeps hlive' := by
    have hlive := Server.confined_exchange.isLive hlive'
    obtain ⟨hheld, hsaved⟩ := h.keeps hlive
    have htables := @Server.tables_exchange server errand.session now mishap (.note text) (by simp)
    have hqueue : (server.exchange errand.session now mishap (.note text)).1.store.queue =
        server.store.queue := congrArg Tables.queue htables
    refine ⟨hqueue ▸ hheld, ?_⟩
    obtain ⟨noted, hnoted, hactive⟩ | ⟨noted, hfailed⟩ := hsaved
    · obtain ⟨number, hactive'⟩ | hfailed' := Server.note_of_active hactive hlive'
      · exact .inl ⟨_, by simp [← hnoted, changes], hactive'⟩
      · exact .inr ⟨noted, hfailed'⟩
    · exact .inr ⟨noted, Server.note_of_failed hfailed hlive'⟩

/-! ### What others do -/

theorem Keeps.spared {state : Transaction → Prop} (h : errand.Keeps server taken state)
    (hdeleted : ∀ transaction, state transaction →
      transaction.changes.deleted = errand.numbers taken)
    (hspares : server.Spares errand.session server') : errand.Keeps server' taken state := by
  intro hlive'
  obtain ⟨hlive, htransaction, hqueue⟩ := hspares hlive'
  obtain ⟨hheld, hstate⟩ := h hlive
  refine ⟨fun entry hentry ↦ hqueue entry (hheld hentry) ?_, htransaction ▸ hstate⟩
  rw [hdeleted _ hstate]
  exact List.mem_map_of_mem (f := Entry.number) hentry

theorem IsSaved.deleted {written : List String} {transaction : Transaction}
    (h : errand.IsSaved taken written transaction) :
    transaction.changes.deleted = errand.numbers taken := by
  obtain ⟨noted, -, rfl⟩ | ⟨noted, rfl⟩ := h <;> rfl

theorem IsReleased.deleted {written : List String} {transaction : Transaction}
    (h : errand.IsReleased taken written transaction) :
    transaction.changes.deleted = errand.numbers taken := by
  obtain ⟨noted, -, rfl⟩ := h
  rfl

theorem Awaits.spared {savepoint : Option Changes} (h : errand.Awaits trail server job savepoint)
    (hspares : server.Spares errand.session server') :
    errand.Awaits trail server' job savepoint :=
  ⟨h.blank, h.unmerged, h.keeps.spared (fun _ hactive ↦ congrArg (·.changes.deleted) hactive)
    hspares⟩

theorem Bears.spared {reception? : Option Reception}
    {state : List Entry → List String → Transaction → Prop}
    (h : errand.Bears deduplicator trail server reception? state job lookup taken)
    (hdeleted : ∀ written transaction, state taken written transaction →
      transaction.changes.deleted = errand.numbers taken)
    (hspares : server.Spares errand.session server') :
    errand.Bears deduplicator trail server' reception? state job lookup taken :=
  ⟨h.lookups, h.takes, h.merges, h.unchanged, h.heard, h.keeps.spared (hdeleted _) hspares⟩

/-- What spares the session leaves an errand where it is. -/
theorem Reaches.spared (h : errand.Reaches deduplicator trail server point)
    (hspares : server.Spares errand.session server') :
    errand.Reaches deduplicator trail server' point := by
  cases point with
  | working session job stage =>
    obtain ⟨rfl, hstage⟩ := h
    refine ⟨rfl, ?_⟩
    cases stage with
    | saving | deduplicating => exact Awaits.spared hstage hspares
    | delivering | releasing =>
      obtain ⟨lookup, taken, hbears⟩ := hstage
      exact ⟨lookup, taken, hbears.spared (fun _ _ ↦ IsSaved.deleted) hspares⟩
    | committingSuccess =>
      obtain ⟨lookup, taken, hbears⟩ := hstage
      exact ⟨lookup, taken, hbears.spared (fun _ _ ↦ IsReleased.deleted) hspares⟩
    | undoing | puttingOff | committingPutOff | puttingBack | committingPutBack | committingClaim
      | beginningArchive | archiving | committingArchive => exact hstage
  | rollingBack | idle | starting | atConnectGate | connecting | atFailureGate | asleep | polling
    | closing | crashed => exact h

end Errand

end TableQueue
