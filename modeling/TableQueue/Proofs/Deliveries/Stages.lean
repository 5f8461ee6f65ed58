import TableQueue.Proofs.Retries.Bounds
import TableQueue.Proofs.World.Frames

/-!
# The stages of a delivery

What is to be expected of a delivery depends on how the handler receives the job, on the number of
tries and on whether every statement of the worker succeeds. At each stage of the job the
transaction of the worker holds what has been decided so far, and the tables are those from before
the claim until a commit. An answer brings the worker to a stage that relies on what the server then
holds, or it ends the delivery as expected.
-/

namespace TableQueue

variable {α : Type} {duties : Duties α}

/-! ## What is to be expected -/

def Tables.without (tables : Tables) (entry : Entry) : Tables :=
  { tables with queue := tables.queue.erase entry }

def Tables.replace (tables : Tables) (entry new : Entry) : Tables :=
  { tables with queue := (Store.place Entry.number new tables.queue).erase entry }

/-- What is taken down about a delivery. -/
structure Journal where
  /-- What the handler has written, the earliest first. -/
  written : List String
  reception? : Option Reception
  /-- The instant at which the job was put back or put off. -/
  insertedAt? : Option Instant
  /-- Whether a commit of the worker has succeeded. -/
  hasCommitted : Bool
  /-- Whether no statement of the worker has failed. -/
  isSmooth : Bool
deriving DecidableEq

namespace Journal

def blank : Journal := ⟨[], none, none, false, true⟩

def answered (journal : Journal) (now : Instant) : (call : Call α) → Option call.Answer → Journal
  | .execute _ (.putBack ..), some (.ok _) | .execute _ (.putOff ..), some (.ok _) =>
    { journal with insertedAt? := some now }
  | .execute _ (.command .commit), some (.ok _) => { journal with hasCommitted := true }
  | .execute .., some (.error _) => { journal with isSmooth := false }
  | .deliver .., some reception => { journal with reception? := some reception }
  | _, _ => journal

end Journal

namespace World

variable (world : World duties) (number : Nat)

def isHandling : Bool :=
  match world.members[number]? with
  | some ⟨⟨_, _, _, .working _ _ .delivering⟩, none, _, _⟩ => true
  | _ => false

/-- Takes down what a move means for the delivery of a worker. -/
def journal (journal : Journal) : Move → Journal
  | .answer other chance =>
    match world.members[other]? with
    | some ⟨worker, none, _, _⟩ =>
      if other = number then
        journal.answered world.now (worker.call duties)
          (world.server.answer world.now chance (worker.call duties)).2
      else journal
    | _ => journal
  | .write other text _ =>
    if other = number ∧ world.isHandling number then
      { journal with written := journal.written ++ [text] }
    else journal
  | _ => journal

end World

def Past.journal (number : Nat) (past : Past duties) : Journal :=
  past.foldr (fun (world, move) journal ↦ world.journal number journal move) .blank

/-- Whether a worker that waits at a point, or has just been answered there, has a claimed row. -/
def Point.isDelivering (duties : Duties α) :
    (point : Point α) → Option (point.call duties).Answer → Bool
  | polling _ _ (.claiming ..), some (.ok (some _)) | working .., _ | rollingBack .., _ => true
  | _, _ => false

namespace World

def isDelivering (world : World duties) (number : Nat) : Bool :=
  match world.members[number]? with
  | some member => member.worker.point.isDelivering duties member.answer?
  | none => false

/-- A worker has a claimed row, and nobody else changes the tables. -/
def Delivers (number : Nat) (world : World duties) (move : Move) : Prop :=
  world.isDelivering number = true ∧
    (move.actor? = some number ∨ (world.step move).tables = world.tables)

instance (number : Nat) (world : World duties) (move : Move) :
    Decidable (world.Delivers number move) :=
  inferInstanceAs (Decidable (_ ∧ _))

end World

namespace Codec

/-- The cells that are kept of a job are read as before. They are the same cells if the codec has
written them. -/
def Keeps (codec : Codec α) (cells kept : List Cell) : Prop :=
  codec.decode kept = codec.decode cells ∧
    ((∃ payload, cells = codec.encode payload) → kept = cells)

/-- Cells are read as before once a codec that reads back what it writes has written them. -/
theorem RoundTrips.keeps {codec : Codec α} (h : codec.RoundTrips) {cells : List Cell} {payload : α}
    (hdecode : codec.decode cells = .ok payload) : codec.Keeps cells (codec.encode payload) := by
  refine ⟨(h payload).trans hdecode.symm, ?_⟩
  rintro ⟨written, rfl⟩
  exact h.preserves written payload hdecode

end Codec

section Outcome

variable (duties : Duties α) (journal : Journal) (tables : Tables) (entry : Entry)

/-- Whether a failed job of a row is archived: the failure is fatal, or the tries are used up. The
number of tries stops at the largest that fits into 32 bits. -/
def Reception.Archives (reception : Reception) : Prop :=
  ∃ failure stored, reception.failure? = some failure ∧ entry.row.tries = some stored ∧
    (reception.isFinal = true ∨ duties.settings.maxTries ≤ min 2147483647 (stored + 1))

/-- What becomes of the tables when the delivery of a row is settled. -/
inductive Settles : Reception → Tables → Prop where
  /-- The row is gone, and what the handler wrote is kept. -/
  | accepted {noted : List (Nat × String)} : noted.map Prod.snd = journal.written →
      Settles .accepted
        { tables.without entry with notes := Store.placeAll Prod.fst noted tables.notes }
  /-- The row is replaced by one that counts one more try. -/
  | putBack {reception : Reception} {stored : Int} {cells : List Cell} {new : Entry} :
      (∃ cause, reception = .rejected (.retryable cause)) ∨ (∃ text?, reception = .died text?) →
      entry.row.tries = some stored → min 2147483647 (stored + 1) < duties.settings.maxTries →
      journal.insertedAt? = some new.visibleFrom → duties.codec.Keeps entry.row.job cells →
      new.row = { entry.row with tries := some (min 2147483647 (stored + 1)), job := cells } →
      Settles reception (tables.replace entry new)
  /-- The row is replaced by one that counts one more try and becomes eligible later, by 365 days at
  most and in whole milliseconds. -/
  | putOff {cause : List String} {delay : Span} {stored : Int} {cells : List Cell} {new : Entry} :
      entry.row.tries = some stored → min 2147483647 (stored + 1) < duties.settings.maxTries →
      journal.insertedAt? = some new.visibleFrom → duties.codec.Keeps entry.row.job cells →
      new.row = { entry.row with
        tries := some (min 2147483647 (stored + 1))
        dequeueAfter := new.visibleFrom.after
          (Span.ofMillis (min delay.nanos (365 * 24 * 60 * 60 * 1000000000) / 1000000))
        job := cells } →
      Settles (.rejected (.postponed cause delay)) (tables.replace entry new)
  /-- The row is gone, and the archive has one more. -/
  | archived {reception : Reception} {failure : JobFailure} {number : Nat} {row : ArchivedRow} :
      reception.failure? = some failure → reception.Archives duties entry →
      row.queue = entry.row.queue → some row.queued = entry.row.queued →
      duties.codec.Keeps entry.row.job row.job → row.diagnosis = failure.diagnosis →
      Settles reception
        { tables.without entry with archive := Store.place Prod.fst (number, row) tables.archive }

/-- What becomes of the tables when a statement fails on the way. -/
inductive Interrupts : Tables → Prop where
  | intact : journal.hasCommitted = false → Interrupts tables
  /-- The claim of a job that was to be archived has been committed, and the row is gone. -/
  | removed {reception : Reception} : journal.hasCommitted = true →
      journal.reception? = some reception → reception.Archives duties entry →
      Interrupts (tables.without entry)

end Outcome

/-! ## Rows and commits -/

/-- In a table whose rows have different numbers, deleting a number erases one row. -/
theorem Store.filter_eq_erase {table : List Entry} {entry : Entry} (hmem : entry ∈ table)
    (hnodup : (table.map Entry.number).Nodup) :
    (table.filter fun other ↦ !([entry.number].contains other.number)) = table.erase entry := by
  rw [(hnodup.of_map _).erase_eq_filter]
  refine List.filter_congr fun other hother ↦ ?_
  by_cases hsame : other = entry
  · simp [hsame]
  · have hnumber : other.number ≠ entry.number := fun heq ↦
      hsame (List.inj_on_of_nodup_map hnodup hother hmem heq)
    simp [hsame, hnumber]

namespace Store.Sound

variable {store : Store} {session : Nat} {changes : Changes} {savepoint : Option Changes}
  {entry : Entry}

/-- The tables after the commit of a transaction that has deleted one row. -/
theorem tables_apply (h : store.Sound)
    (hactive : store.transaction session = .active changes savepoint) (hmem : entry ∈ store.queue)
    (hdeleted : changes.deleted = [entry.number]) :
    (store.apply changes).tables =
      ⟨(placeAll Entry.number changes.inserted store.queue).erase entry,
        placeAll Prod.fst changes.archived store.archive,
        placeAll Prod.fst changes.noted store.notes⟩ := by
  have hadmits := h.admits session
  rw [hactive] at hadmits
  have hnodup : ((placeAll Entry.number changes.inserted store.queue).map Entry.number).Nodup := by
    rw [((placeAll_perm Entry.number changes.inserted store.queue).map Entry.number).nodup_iff,
      List.map_append]
    refine List.nodup_append.2 ⟨(List.nodup_append.1 h.nodup).1,
      (List.nodup_append.1 hadmits.nodup).1, ?_⟩
    rintro n hn m hm rfl
    exact hadmits.new n (List.mem_append_left _ hm) (List.mem_append_left _ hn)
  have hqueue := filter_eq_erase (mem_placeAll.2 (.inl hmem)) hnodup
  simp only [tables, apply, hdeleted, hqueue]

end Store.Sound

namespace Duties.Reads

variable {row : Row} {job : Job α}

/-- A row that can be read holds a number of tries, and the job counts one more. -/
theorem exists_stored (h : duties.Reads row job) :
    ∃ stored, row.tries = some stored ∧ job.details.tries = min 2147483647 (stored + 1) := by
  obtain ⟨tries, queued, htries, -, hdetails⟩ := Row.metadata_eq_ok h.1
  exact ⟨tries, htries, by rw [hdetails]; rfl⟩

theorem keeps (h : duties.Reads row job) (hcodec : duties.codec.RoundTrips) :
    duties.codec.Keeps row.job (duties.codec.encode job.payload) :=
  hcodec.keeps h.2

/-- The row that is put back is the claimed one with the tries, the time and the job of the attempt.
-/
theorem savedRow_eq (h : duties.Reads row job) (dequeueAfter : Instant) :
    duties.savedRow job dequeueAfter =
      { row with
        dequeueAfter := dequeueAfter
        tries := some job.details.tries
        job := duties.codec.encode job.payload } := by
  obtain ⟨tries, queued, -, hqueued, hdetails⟩ := Row.metadata_eq_ok h.1
  rw [Duties.savedRow, hdetails, hqueued]
  rfl

/-- The archived row keeps the queue and the time of queueing of the claimed one. -/
theorem archivedRow_queued (h : duties.Reads row job) (failure : JobFailure)
    (failedAt : Instant) :
    (duties.archivedRow job failure failedAt).queue = row.queue ∧
      some (duties.archivedRow job failure failedAt).queued = row.queued := by
  obtain ⟨tries, queued, -, hqueued, hdetails⟩ := Row.metadata_eq_ok h.1
  rw [Duties.archivedRow, hdetails, hqueued]
  exact ⟨rfl, rfl⟩

end Duties.Reads

/-! ## What each stage relies on -/

/-- A row that is claimed on a connection, with the tables at that time. -/
structure Claimed where
  session : Nat
  tables : Tables
  entry : Entry
  mem : entry ∈ tables.queue

namespace Claimed

variable (claimed : Claimed)

/-- The changes of the transaction that claims the row, after its handler has written. -/
def changes (noted : List (Nat × String)) : Changes := ⟨[claimed.entry.number], [], [], noted⟩

/-- The transaction at its savepoint, after the handler has written. It may have failed since. -/
def Saved (written : List String) (transaction : Transaction) : Prop :=
  ∃ noted, noted.map Prod.snd = written ∧
      transaction = .active (claimed.changes noted) (some (claimed.changes [])) ∨
    transaction = .failed (claimed.changes noted) (some (claimed.changes []))

end Claimed

namespace JobStage

variable (duties : Duties α) (claimed : Claimed) (journal : Journal) (job : Job α)

def isRemoved : JobStage → Bool
  | .beginningArchive _ | .archiving .. | .committingArchive _ => true
  | .saving | .deduplicating _ | .delivering | .releasing | .committingSuccess | .undoing _
  | .puttingOff .. | .committingPutOff _ | .puttingBack .. | .committingPutBack _
  | .committingClaim _ => false

def tables (stage : JobStage) : Tables :=
  if stage.isRemoved then claimed.tables.without claimed.entry else claimed.tables

/-- What has been decided about a job at a stage. -/
def Decided : JobStage → Prop
  | .saving => journal.written = []
  | .deduplicating _ => False
  | .delivering => True
  | .releasing | .committingSuccess => journal.reception? = some .accepted
  | .undoing failure => journal.reception?.bind Reception.failure? = some failure
  | .puttingOff failure delayMillis _ => journal.reception?.bind Reception.failure? = some failure ∧
    ∃ delay, duties.settings.disposition job.details failure = .putOff delay ∧
      delayMillis = writtenDelay delay
  | .committingPutOff failure => journal.reception?.bind Reception.failure? = some failure ∧
    ∃ delay, duties.settings.disposition job.details failure = .putOff delay
  | .puttingBack failure _ | .committingPutBack failure =>
    journal.reception?.bind Reception.failure? = some failure ∧
      duties.settings.disposition job.details failure = .putBack
  | .committingClaim failure | .beginningArchive failure | .archiving failure _
  | .committingArchive failure => journal.reception?.bind Reception.failure? = some failure ∧
    duties.settings.disposition job.details failure = .archive

/-- The transaction at a stage. -/
def Transacts (transaction : Transaction) : JobStage → Prop
  | .saving | .deduplicating _ => transaction = .active (claimed.changes []) none
  | .delivering | .releasing | .undoing _ => claimed.Saved journal.written transaction
  | .committingSuccess => ∃ noted, noted.map Prod.snd = journal.written ∧
    transaction = .active (claimed.changes noted) none
  | .puttingOff .. | .puttingBack .. | .committingClaim _ =>
    transaction = .active (claimed.changes []) (some (claimed.changes []))
  | .committingPutOff failure => ∃ delay new,
    duties.settings.disposition job.details failure = .putOff delay ∧
      journal.insertedAt? = some new.visibleFrom ∧
      new.row = duties.savedRow job
        (new.visibleFrom.after (Span.ofMillis (writtenDelay delay))) ∧
      transaction = .active ⟨[claimed.entry.number], [new], [], []⟩ (some (claimed.changes []))
  | .committingPutBack _ => ∃ new, journal.insertedAt? = some new.visibleFrom ∧
      new.row = duties.savedRow job job.details.dequeueAfter.instant ∧
      transaction = .active ⟨[claimed.entry.number], [new], [], []⟩ (some (claimed.changes []))
  | .beginningArchive _ => transaction = .idle
  | .archiving .. => transaction = .active .none none
  | .committingArchive failure => ∃ number failedAt,
    transaction = .active ⟨[], [], [(number, duties.archivedRow job failure failedAt)], []⟩ none

end JobStage

section Handles

variable (duties : Duties α) (claimed : Claimed) (journal : Journal)

structure Ends (tables : Tables) : Prop where
  settled : journal.isSmooth = true → (∃ job, duties.Reads claimed.entry.row job) →
    ∃ reception, journal.reception? = some reception ∧
      Settles duties journal claimed.tables claimed.entry reception tables
  interrupted : journal.isSmooth = false ∨ (¬ ∃ job, duties.Reads claimed.entry.row job) →
    Interrupts duties journal claimed.tables claimed.entry tables

/-- A worker is at a stage of the delivery of a claimed row. -/
structure AtStage (server : Server) (job : Job α) (stage : JobStage) : Prop where
  smooth : journal.isSmooth = true
  removed : journal.hasCommitted = stage.isRemoved
  reads : duties.Reads claimed.entry.row job
  decided : stage.Decided duties journal job
  tables : server.store.tables = stage.tables claimed
  transacts : server.isLive claimed.session = true →
    stage.Transacts duties claimed journal job (server.store.transaction claimed.session)

/-- Where a worker may be on account of a claimed row. -/
def Point.Handles (server : Server) : Point α → Prop
  | working session job stage => session = claimed.session ∧
    AtStage duties claimed journal server job stage
  | rollingBack session _ => session = claimed.session ∧ journal.isSmooth = false ∧
    Interrupts duties journal claimed.tables claimed.entry server.store.tables
  | _ => Ends duties claimed journal server.store.tables

end Handles

/-! ## From stage to stage -/

variable {claimed : Claimed} {journal : Journal} {server server' : Server} {job : Job α}
  {stage : JobStage} {now : Instant} {chance : Chance} {bounds bounds' : Bounds} {point : Point α}

theorem Point.IsResting.handles {session : Nat} (h : point.IsResting session)
    (hends : Ends duties claimed journal server.store.tables) :
    point.Handles duties claimed journal server := by
  cases point with
  | closing | atFailureGate | asleep | polling => exact hends
  | idle | starting | atConnectGate | connecting | working | rollingBack | crashed => exact h.elim

theorem Point.Goes.handles (h : Goes claimed.session job bounds stage bounds' point)
    (hstage : AtStage duties claimed journal server job stage) :
    point.Handles duties claimed journal server := by
  rw [h.2]
  exact ⟨rfl, hstage⟩

/-- A postponement is cut at 365 days and then to whole milliseconds. -/
theorem writtenDelay_eq (delay : Span) :
    writtenDelay delay = min delay.nanos (365 * 24 * 60 * 60 * 1000000000) / 1000000 := by
  rw [writtenDelay, Span.min]
  by_cases hshort : delay.nanos ≤ longestPostponement.nanos
  · rw [if_pos hshort]
    exact congrArg (· / 1000000) (Nat.min_eq_left hshort).symm
  · rw [if_neg hshort]
    exact congrArg (· / 1000000) (Nat.min_eq_right (Nat.le_of_not_le hshort)).symm

theorem Reception.eq_of_failure?_retryable {reception : Reception} {cause : List String}
    (h : reception.failure? = some (.retryable cause)) :
    (∃ cause, reception = .rejected (.retryable cause)) ∨ ∃ text?, reception = .died text? := by
  rcases reception with _ | failure | text?
  · cases h
  · exact .inl ⟨cause, congrArg _ (Option.some.inj h)⟩
  · exact .inr ⟨text?, rfl⟩

theorem Reception.eq_of_failure?_postponed {reception : Reception} {cause : List String}
    {delay : Span} (h : reception.failure? = some (.postponed cause delay)) :
    reception = .rejected (.postponed cause delay) := by
  rcases reception with _ | failure | _ | text
  · cases h
  · exact congrArg _ (Option.some.inj h)
  all_goals cases h

/-- A job is put off only if its failure asks for a delay and tries are left. -/
theorem Settings.failure_of_putOff {settings : Settings} {details : JobMeta}
    {failure : JobFailure} {delay : Span}
    (h : settings.disposition details failure = .putOff delay) :
    (∃ cause, failure = .postponed cause delay) ∧ details.tries < settings.maxTries := by
  unfold Settings.disposition at h
  split at h
  · cases h
  · next hleft =>
    cases failure with
    | postponed cause delay' =>
      cases h
      exact ⟨⟨cause, rfl⟩, Int.not_le.1 hleft⟩
    | retryable | fatal => cases h

/-- A job is put back only if it can be tried again and tries are left. -/
theorem Settings.failure_of_putBack {settings : Settings} {details : JobMeta}
    {failure : JobFailure} (h : settings.disposition details failure = .putBack) :
    (∃ cause, failure = .retryable cause) ∧ details.tries < settings.maxTries := by
  unfold Settings.disposition at h
  split at h
  · cases h
  · next hleft =>
    cases failure with
    | retryable cause => exact ⟨⟨cause, rfl⟩, Int.not_le.1 hleft⟩
    | postponed | fatal => cases h

/-- What a disposition means for the row of a job. -/
theorem Duties.Reads.archives_iff {entry : Entry} (h : duties.Reads entry.row job)
    {reception : Reception} {failure : JobFailure} (hfailure : reception.failure? = some failure) :
    duties.settings.disposition job.details failure = .archive ↔
      reception.Archives duties entry := by
  obtain ⟨stored, hstored, htries⟩ := h.exists_stored
  rw [Reception.disposition_eq_archive_iff hfailure, htries]
  refine ⟨fun hfinal ↦ ⟨failure, stored, hfailure, hstored, hfinal⟩, ?_⟩
  rintro ⟨failure', stored', -, hstored', hfinal⟩
  obtain rfl := Option.some.inj (hstored.symm.trans hstored')
  exact hfinal

/-- The answer to a statement is what comes of its exchange. -/
theorem Server.exchange_of_answer {session : Nat} {statement : Statement}
    {answer : Except DatabaseError statement.Reply}
    (h : server.answer now chance (.execute session statement : Call α) =
      (server', some answer)) :
    server.exchange session now chance.mishap statement = (server', answer) := by
  obtain ⟨hserver, hanswer⟩ := Prod.mk.inj h
  exact Prod.ext hserver (Option.some.inj hanswer)

namespace AtStage

/-- A failing statement finds the tables as an interruption leaves them. -/
theorem interrupts (h : AtStage duties claimed journal server job stage) :
    Interrupts duties { journal with isSmooth := false } claimed.tables claimed.entry
      (stage.tables claimed) := by
  cases stage with
  | saving | deduplicating | delivering | releasing | committingSuccess | undoing | puttingOff
    | committingPutOff | puttingBack | committingPutBack | committingClaim =>
    exact .intact h.removed
  | beginningArchive | archiving | committingArchive =>
    obtain ⟨hheard, harchive⟩ := h.decided
    obtain ⟨reception, hreception, hfailure⟩ := Option.bind_eq_some_iff.1 hheard
    exact .removed h.removed hreception ((h.reads.archives_iff hfailure).1 harchive)

/-- A statement fails, and the worker is about to roll back. -/
theorem fails (h : AtStage duties claimed journal server job stage) {statement : Statement}
    {error : DatabaseError}
    (hanswer : server.answer now chance (.execute claimed.session statement : Call α) =
      (server', some (.error error)))
    (hleads : Point.Fails claimed.session bounds bounds' point) :
    point.Handles duties claimed { journal with isSmooth := false } server' := by
  have hexchange := Server.exchange_of_answer hanswer
  have htables := Server.tables_exchange_of_error (congrArg Prod.snd hexchange)
  rw [hexchange, h.tables] at htables
  obtain ⟨-, fault, rfl⟩ := hleads
  exact ⟨rfl, rfl, htables ▸ h.interrupts⟩

/-- A statement that succeeds has been carried out in the transaction of the stage. -/
theorem performed (h : AtStage duties claimed journal server job stage) {statement : Statement}
    {reply : statement.Reply}
    (hanswer : server.answer now chance (.execute claimed.session statement : Call α) =
      (server', some (.ok reply))) :
    stage.Transacts duties claimed journal job (server.store.transaction claimed.session) ∧
      ∃ reply', server.store.perform claimed.session now statement =
        (server'.store, .ok reply') := by
  have hexchange := Server.exchange_of_answer hanswer
  obtain ⟨hlive, -, reply', -, hperform⟩ := Server.exchange_of_ok (congrArg Prod.snd hexchange)
  rw [hexchange] at hperform
  exact ⟨h.transacts hlive, reply', hperform⟩

/-- A statement other than a commit leads to another stage on the same side of the commit. -/
theorem advance (h : AtStage duties claimed journal server job stage) {statement : Statement}
    {answer : Except DatabaseError statement.Reply} {journal' : Journal} {next : JobStage}
    (hstatement : statement ≠ .command .commit)
    (hanswer : server.answer now chance (.execute claimed.session statement : Call α) =
      (server', some answer))
    (hsmooth : journal'.isSmooth = journal.isSmooth)
    (hcommitted : journal'.hasCommitted = journal.hasCommitted)
    (hnext : next.isRemoved = stage.isRemoved)
    (hdecided : next.Decided duties journal' job)
    (htransacts : next.Transacts duties claimed journal' job
      (server'.store.transaction claimed.session)) :
    AtStage duties claimed journal' server' job next where
  smooth := hsmooth.trans h.smooth
  removed := hcommitted.trans (h.removed.trans hnext.symm)
  reads := h.reads
  decided := hdecided
  tables := by
    have htables := @Server.tables_exchange server claimed.session now chance.mishap _ hstatement
    rw [Server.exchange_of_answer hanswer] at htables
    rw [htables, h.tables, JobStage.tables, JobStage.tables, hnext]
  transacts _ := htransacts

theorem save (h : AtStage duties claimed journal server job .saving)
    (hanswer : server.answer now chance (Point.jobCall duties claimed.session job .saving) =
      (server', some (.ok ()))) :
    AtStage duties claimed journal server' job .delivering := by
  obtain ⟨hactive, _, hperform⟩ := h.performed hanswer
  rw [Store.perform_setSavepoint now hactive] at hperform
  have hstore : server.store.setTransaction claimed.session
      (.active (claimed.changes []) (some (claimed.changes []))) = server'.store :=
    congrArg Prod.fst hperform
  refine h.advance (by decide) hanswer rfl rfl rfl trivial ?_
  rw [← hstore, Store.transaction_setTransaction_self]
  exact ⟨[], .inl ⟨h.decided.symm, rfl⟩⟩

theorem release (h : AtStage duties claimed journal server job .releasing)
    (hanswer : server.answer now chance (Point.jobCall duties claimed.session job .releasing) =
      (server', some (.ok ()))) :
    AtStage duties claimed journal server' job .committingSuccess := by
  obtain ⟨⟨noted, ⟨hnoted, hactive⟩ | hfailed⟩, _, hperform⟩ := h.performed hanswer
  · rw [Store.perform_releaseSavepoint now hactive] at hperform
    have hstore : server.store.setTransaction claimed.session
        (.active (claimed.changes noted) none) = server'.store := congrArg Prod.fst hperform
    refine h.advance (by decide) hanswer rfl rfl rfl h.decided ?_
    rw [← hstore, Store.transaction_setTransaction_self]
    exact ⟨noted, hnoted, rfl⟩
  · rw [Store.perform_of_failed now hfailed rfl] at hperform
    cases congrArg Prod.snd hperform

/-- What the handler has written is undone, and so is a failure of its statements. -/
theorem undo {failure : JobFailure} {next : JobStage}
    (h : AtStage duties claimed journal server job (.undoing failure))
    (hanswer : server.answer now chance
      (Point.jobCall duties claimed.session job (.undoing failure)) = (server', some (.ok ())))
    (hnext : next.isRemoved = false) (hdecided : next.Decided duties journal job)
    (htransacts : ∀ transaction,
      transaction = .active (claimed.changes []) (some (claimed.changes [])) →
        next.Transacts duties claimed journal job transaction) :
    AtStage duties claimed journal server' job next := by
  obtain ⟨⟨noted, hstate⟩, _, hperform⟩ := h.performed hanswer
  rw [Store.perform_rollbackToSavepoint now (hstate.imp_left And.right)] at hperform
  have hstore : server.store.setTransaction claimed.session
      (.active (claimed.changes []) (some (claimed.changes []))) = server'.store :=
    congrArg Prod.fst hperform
  refine h.advance (by decide) hanswer rfl rfl hnext hdecided (htransacts _ ?_)
  rw [← hstore, Store.transaction_setTransaction_self]

/-- Once the job is put off, its row is in the changes of the transaction. -/
theorem putOff {failure : JobFailure} {delayMillis rows : Nat} {begun : Instant}
    (h : AtStage duties claimed journal server job (.puttingOff failure delayMillis begun))
    (hanswer : server.answer now chance
      (Point.jobCall duties claimed.session job (.puttingOff failure delayMillis begun)) =
      (server', some (.ok rows))) :
    AtStage duties claimed { journal with insertedAt? := some now } server' job
      (.committingPutOff failure) := by
  obtain ⟨hactive, _, hperform⟩ := h.performed hanswer
  obtain ⟨hheard, delay, hdelay, rfl⟩ := h.decided
  rw [Store.perform_of_active now hactive] at hperform
  have hinserted := Store.transaction_insert hactive
    (duties.savedRow job (now.after (Span.ofMillis (writtenDelay delay)))) now
  refine h.advance (by simp) hanswer rfl rfl rfl ⟨hheard, delay, hdelay⟩ ?_
  exact ⟨delay, _, hdelay, rfl, rfl,
    (congrArg (·.1.transaction claimed.session) hperform).symm.trans hinserted⟩

/-- Once the job is put back, its row is in the changes of the transaction. -/
theorem putBack {failure : JobFailure} {rows : Nat} {begun : Instant}
    (h : AtStage duties claimed journal server job (.puttingBack failure begun))
    (hanswer : server.answer now chance
      (Point.jobCall duties claimed.session job (.puttingBack failure begun)) =
      (server', some (.ok rows))) :
    AtStage duties claimed { journal with insertedAt? := some now } server' job
      (.committingPutBack failure) := by
  obtain ⟨hactive, _, hperform⟩ := h.performed hanswer
  rw [Store.perform_of_active now hactive] at hperform
  have hinserted := Store.transaction_insert hactive
    (duties.savedRow job job.details.dequeueAfter.instant) now
  refine h.advance (by simp) hanswer rfl rfl rfl h.decided ?_
  exact ⟨_, rfl, rfl,
    (congrArg (·.1.transaction claimed.session) hperform).symm.trans hinserted⟩

/-- The archive begins in a transaction of its own, without changes. -/
theorem beginArchive {failure : JobFailure} {begun : Instant}
    (h : AtStage duties claimed journal server job (.beginningArchive failure))
    (hanswer : server.answer now chance
      (Point.jobCall duties claimed.session job (.beginningArchive failure)) =
      (server', some (.ok ()))) :
    AtStage duties claimed journal server' job (.archiving failure begun) := by
  obtain ⟨hidle, _, hperform⟩ := h.performed hanswer
  rw [Store.perform_begin now hidle] at hperform
  have hstore : server.store.setTransaction claimed.session (.active .none none) = server'.store :=
    congrArg Prod.fst hperform
  refine h.advance (by decide) hanswer rfl rfl rfl h.decided ?_
  rw [← hstore]
  exact Store.transaction_setTransaction_self _ _ _

theorem archive {failure : JobFailure} {rows : Nat} {begun : Instant}
    (h : AtStage duties claimed journal server job (.archiving failure begun))
    (hanswer : server.answer now chance
      (Point.jobCall duties claimed.session job (.archiving failure begun)) =
      (server', some (.ok rows))) :
    AtStage duties claimed journal server' job (.committingArchive failure) := by
  obtain ⟨hactive, _, hperform⟩ := h.performed hanswer
  rw [Store.perform_of_active now hactive] at hperform
  have harchived := Store.transaction_archive hactive now job.details.queue
    job.details.queued.instant failure.diagnosis (duties.codec.encode job.payload)
  refine h.advance (by simp) hanswer rfl rfl rfl h.decided ?_
  exact ⟨_, now,
    (congrArg (·.1.transaction claimed.session) hperform).symm.trans harchived⟩

/-! ### Commits -/

/-- A commit takes the changes of the transaction over into the tables. -/
theorem tables_commit (h : AtStage duties claimed journal server job stage) (hserver : server.Sound)
    {changes : Changes} {savepoint : Option Changes} (hstage : stage.isRemoved = false)
    (hactive : server.store.transaction claimed.session = .active changes savepoint)
    (hdeleted : changes.deleted = [claimed.entry.number])
    (hanswer : server.answer now chance (.execute claimed.session (.command .commit) : Call α) =
      (server', some (.ok ()))) :
    server'.store.tables =
      ⟨(Store.placeAll Entry.number changes.inserted claimed.tables.queue).erase claimed.entry,
        Store.placeAll Prod.fst changes.archived claimed.tables.archive,
        Store.placeAll Prod.fst changes.noted claimed.tables.notes⟩ := by
  obtain ⟨-, _, hperform⟩ := h.performed hanswer
  rw [Store.perform_commit now hactive] at hperform
  have hstore : (server.store.apply changes).setTransaction claimed.session .idle = server'.store :=
    congrArg Prod.fst hperform
  have htables : server.store.tables = claimed.tables := by
    rw [h.tables, JobStage.tables, hstage, if_neg Bool.false_ne_true]
  have hmem : claimed.entry ∈ server.store.tables.queue := by
    rw [htables]
    exact claimed.mem
  rw [← hstore, Store.tables_setTransaction, hserver.store.tables_apply hactive hmem hdeleted,
    ← htables]
  rfl

theorem ends (h : AtStage duties claimed journal server job stage) {reception : Reception}
    {tables : Tables} (hreception : journal.reception? = some reception)
    (hsettles : Settles duties { journal with hasCommitted := true } claimed.tables claimed.entry
      reception tables) :
    Ends duties claimed { journal with hasCommitted := true } tables where
  settled _ _ := ⟨reception, hreception, hsettles⟩
  interrupted hinterrupted := by
    rcases hinterrupted with hfailed | hunread
    · exact absurd (h.smooth.symm.trans hfailed) (by decide)
    · exact absurd ⟨job, h.reads⟩ hunread

/-- The commit of an accepted job takes its row from the queue. -/
theorem accept (h : AtStage duties claimed journal server job .committingSuccess)
    (hserver : server.Sound)
    (hanswer : server.answer now chance
      (Point.jobCall duties claimed.session job .committingSuccess) = (server', some (.ok ()))) :
    Ends duties claimed { journal with hasCommitted := true } server'.store.tables := by
  obtain ⟨⟨noted, hnoted, hactive⟩, -⟩ := h.performed hanswer
  rw [h.tables_commit hserver rfl hactive rfl hanswer]
  exact h.ends h.decided (.accepted hnoted)

/-- The commit of a job that is put off replaces its row. -/
theorem commitPutOff {failure : JobFailure} (hcodec : duties.codec.RoundTrips)
    (h : AtStage duties claimed journal server job (.committingPutOff failure))
    (hserver : server.Sound)
    (hanswer : server.answer now chance
      (Point.jobCall duties claimed.session job (.committingPutOff failure)) =
      (server', some (.ok ()))) :
    Ends duties claimed { journal with hasCommitted := true } server'.store.tables := by
  obtain ⟨⟨delay, new, hdelay, hinserted, hrow, hactive⟩, -⟩ := h.performed hanswer
  obtain ⟨reception, hreception, hfailure⟩ := Option.bind_eq_some_iff.1 h.decided.1
  obtain ⟨stored, hstored, htries⟩ := h.reads.exists_stored
  obtain ⟨⟨cause, rfl⟩, hleft⟩ := Settings.failure_of_putOff hdelay
  obtain rfl := Reception.eq_of_failure?_postponed hfailure
  rw [h.reads.savedRow_eq, htries, writtenDelay_eq] at hrow
  rw [h.tables_commit hserver rfl hactive rfl hanswer]
  exact h.ends hreception
    (.putOff hstored (htries ▸ hleft) hinserted (h.reads.keeps hcodec) hrow)

/-- The commit of a job that is put back replaces its row. -/
theorem commitPutBack {failure : JobFailure} (hcodec : duties.codec.RoundTrips)
    (h : AtStage duties claimed journal server job (.committingPutBack failure))
    (hserver : server.Sound)
    (hanswer : server.answer now chance
      (Point.jobCall duties claimed.session job (.committingPutBack failure)) =
      (server', some (.ok ()))) :
    Ends duties claimed { journal with hasCommitted := true } server'.store.tables := by
  obtain ⟨⟨new, hinserted, hrow, hactive⟩, -⟩ := h.performed hanswer
  obtain ⟨reception, hreception, hfailure⟩ := Option.bind_eq_some_iff.1 h.decided.1
  obtain ⟨stored, hstored, htries⟩ := h.reads.exists_stored
  obtain ⟨⟨cause, rfl⟩, hleft⟩ := Settings.failure_of_putBack h.decided.2
  rw [h.reads.savedRow_eq, htries, Row.instant_of_metadata h.reads.1] at hrow
  rw [h.tables_commit hserver rfl hactive rfl hanswer]
  exact h.ends hreception (.putBack (Reception.eq_of_failure?_retryable hfailure) hstored
    (htries ▸ hleft) hinserted (h.reads.keeps hcodec) hrow)

/-- The claim is committed before the job is archived. -/
theorem commitClaim {failure : JobFailure}
    (h : AtStage duties claimed journal server job (.committingClaim failure))
    (hserver : server.Sound)
    (hanswer : server.answer now chance
      (Point.jobCall duties claimed.session job (.committingClaim failure)) =
      (server', some (.ok ()))) :
    AtStage duties claimed { journal with hasCommitted := true } server' job
      (.beginningArchive failure) where
  smooth := h.smooth
  removed := rfl
  reads := h.reads
  decided := h.decided
  tables := by
    obtain ⟨hactive, -⟩ := h.performed hanswer
    exact h.tables_commit hserver rfl hactive rfl hanswer
  transacts _ := by
    obtain ⟨hactive, _, hperform⟩ := h.performed hanswer
    exact Store.idle_of_commit hactive hperform

/-- The commit of the archive adds the failed job to it. -/
theorem commitArchive {failure : JobFailure} (hcodec : duties.codec.RoundTrips)
    (h : AtStage duties claimed journal server job (.committingArchive failure))
    (hanswer : server.answer now chance
      (Point.jobCall duties claimed.session job (.committingArchive failure)) =
      (server', some (.ok ()))) :
    Ends duties claimed { journal with hasCommitted := true } server'.store.tables := by
  obtain ⟨⟨number, failedAt, hactive⟩, _, hperform⟩ := h.performed hanswer
  obtain ⟨hheard, harchive⟩ := h.decided
  obtain ⟨reception, hreception, hfailure⟩ := Option.bind_eq_some_iff.1 hheard
  rw [Store.perform_commit now hactive] at hperform
  -- Nothing is deleted or inserted here: the claim was committed before.
  have hstore : (server.store.apply _).setTransaction claimed.session .idle = server'.store :=
    congrArg Prod.fst hperform
  have htables : server'.store.tables = { server.store.tables with
      archive := Store.place Prod.fst (number, duties.archivedRow job failure failedAt)
        server.store.tables.archive } := by
    rw [← hstore]
    simp [Store.tables, Store.setTransaction, Store.apply, Store.placeAll]
  rw [htables, h.tables]
  obtain ⟨hqueue, hqueued⟩ := h.reads.archivedRow_queued failure failedAt
  exact h.ends hreception (.archived hfailure ((h.reads.archives_iff hfailure).1 harchive) hqueue
    hqueued (h.reads.keeps hcodec) rfl)

/-- The handler is done with the job. -/
theorem deliver (h : AtStage duties claimed journal server job .delivering) {reception : Reception}
    {next : JobStage} (hnext : next = .releasing ∨ ∃ failure, next = .undoing failure)
    (hdecided : next.Decided duties { journal with reception? := some reception } job) :
    AtStage duties claimed { journal with reception? := some reception } server job next := by
  obtain rfl | ⟨failure, rfl⟩ := hnext <;>
    exact ⟨h.smooth, h.removed, h.reads, hdecided, h.tables, h.transacts⟩

/-! ### Where an answer leads -/

theorem saved (halone : duties.deduplicator = none)
    (h : AtStage duties claimed journal server job .saving)
    (hanswer : server.answer now chance (Point.jobCall duties claimed.session job .saving) =
      (server', some (.ok ())))
    (hleads : Point.JobLeads duties bounds claimed.session job .saving (.ok ()) bounds' point) :
    point.Handles duties claimed journal server' := by
  rcases hleads with hleads | ⟨hsome, -⟩
  · exact hleads.handles (h.save hanswer)
  · rw [halone] at hsome
    cases hsome

/-- An accepted job is about to be committed, and any other is to be undone first. -/
theorem delivered (h : AtStage duties claimed journal server job .delivering)
    {reception : Reception}
    (hleads : Point.JobLeads duties bounds claimed.session job .delivering reception bounds'
      point) :
    point.Handles duties claimed { journal with reception? := some reception } server := by
  cases hfailure : reception.failure? with
  | none =>
    simp only [Point.JobLeads, hfailure] at hleads
    refine Point.Goes.handles hleads (h.deliver (.inl rfl) ?_)
    rcases reception with _ | failure | _ | text
    · rfl
    all_goals cases hfailure
  | some failure =>
    simp only [Point.JobLeads, hfailure] at hleads
    exact Point.Goes.handles hleads (h.deliver (.inr ⟨failure, rfl⟩) hfailure)

/-- What becomes of the job is decided by its failure and its tries. -/
theorem undone {failure : JobFailure}
    (h : AtStage duties claimed journal server job (.undoing failure))
    (hanswer : server.answer now chance
      (Point.jobCall duties claimed.session job (.undoing failure)) = (server', some (.ok ())))
    (hleads : Point.Disposes duties claimed.session job failure bounds bounds' point) :
    point.Handles duties claimed journal server' := by
  unfold Point.Disposes at hleads
  split at hleads
  · next delay hdisposition =>
    obtain ⟨begun, hleads⟩ := hleads
    exact hleads.handles (h.undo hanswer rfl ⟨h.decided, delay, hdisposition, rfl⟩
      fun _ hactive ↦ hactive)
  · next hdisposition =>
    obtain ⟨begun, hleads⟩ := hleads
    exact hleads.handles (h.undo hanswer rfl ⟨h.decided, hdisposition⟩ fun _ hactive ↦ hactive)
  · next hdisposition =>
    exact hleads.handles (h.undo hanswer rfl ⟨h.decided, hdisposition⟩ fun _ hactive ↦ hactive)

/-- Wherever the answer at a stage leads, the delivery is at another stage or at its end. -/
theorem handles (halone : duties.deduplicator = none) (hcodec : duties.codec.RoundTrips)
    (h : AtStage duties claimed journal server job stage) (hserver : server.Sound)
    {answer : (Point.jobCall duties claimed.session job stage).Answer}
    (hanswer : server.answer now chance (Point.jobCall duties claimed.session job stage) =
      (server', some answer))
    (hleads : Point.JobLeads duties bounds claimed.session job stage answer bounds' point) :
    point.Handles duties claimed
      (journal.answered now (Point.jobCall duties claimed.session job stage) (some answer))
      server' := by
  cases stage with
  | saving =>
    rcases answer with error | ⟨⟩
    · exact h.fails hanswer hleads
    · exact h.saved halone hanswer hleads
  | deduplicating => exact h.decided.elim
  | delivering =>
    obtain ⟨rfl, -⟩ := Prod.mk.inj hanswer
    exact h.delivered hleads
  | releasing =>
    rcases answer with error | ⟨⟩
    · exact h.fails hanswer hleads
    · exact Point.Goes.handles hleads (h.release hanswer)
  | committingSuccess =>
    rcases answer with error | ⟨⟩
    · exact h.fails hanswer hleads
    · exact hleads.1.handles (h.accept hserver hanswer)
  | undoing failure =>
    rcases answer with error | ⟨⟩
    · exact h.fails hanswer hleads
    · exact h.undone hanswer hleads
  | puttingOff =>
    rcases answer with error | rows
    · exact h.fails hanswer hleads
    · exact Point.Goes.handles hleads (h.putOff hanswer)
  | committingPutOff =>
    rcases answer with error | ⟨⟩
    · exact h.fails hanswer hleads
    · exact hleads.1.handles (h.commitPutOff hcodec hserver hanswer)
  | puttingBack =>
    rcases answer with error | rows
    · exact h.fails hanswer hleads
    · exact Point.Goes.handles hleads (h.putBack hanswer)
  | committingPutBack =>
    rcases answer with error | ⟨⟩
    · exact h.fails hanswer hleads
    · exact hleads.1.handles (h.commitPutBack hcodec hserver hanswer)
  | committingClaim =>
    rcases answer with error | ⟨⟩
    · exact h.fails hanswer hleads
    · exact Point.Goes.handles hleads (h.commitClaim hserver hanswer)
  | beginningArchive =>
    rcases answer with error | ⟨⟩
    · exact h.fails hanswer hleads
    · obtain ⟨begun, hleads⟩ := hleads
      exact hleads.handles (h.beginArchive hanswer)
  | archiving =>
    rcases answer with error | rows
    · exact h.fails hanswer hleads
    · exact Point.Goes.handles hleads (h.archive hanswer)
  | committingArchive =>
    rcases answer with error | ⟨⟩
    · exact h.fails hanswer hleads
    · exact hleads.1.handles (h.commitArchive hcodec hanswer)

/-- The handler writes. Its statement may fail, and the transaction with it. -/
theorem write (h : AtStage duties claimed journal server job .delivering) (mishap : Option Mishap)
    (text : String) :
    AtStage duties claimed { journal with written := journal.written ++ [text] }
      (server.exchange claimed.session now mishap (.note text)).1 job .delivering where
  smooth := h.smooth
  removed := h.removed
  reads := h.reads
  decided := trivial
  tables := (Server.tables_exchange (by simp)).trans h.tables
  transacts hlive' := by
    have hlive := Server.confined_exchange.isLive hlive'
    obtain ⟨noted, ⟨hnoted, hactive⟩ | hfailed⟩ := h.transacts hlive
    · obtain ⟨number, hactive'⟩ | hfailed' := Server.note_of_active hactive hlive'
      · exact ⟨_, .inl ⟨by simp [← hnoted, Claimed.changes], hactive'⟩⟩
      · exact ⟨noted, .inr hfailed'⟩
    · exact ⟨noted, .inr (Server.note_of_failed hfailed hlive')⟩

/-- Others leave the tables and the session alone. -/
theorem spared (h : AtStage duties claimed journal server job stage)
    (htables : server'.store.tables = server.store.tables)
    (hspares : server.Spares claimed.session server') :
    AtStage duties claimed journal server' job stage where
  smooth := h.smooth
  removed := h.removed
  reads := h.reads
  decided := h.decided
  tables := htables.trans h.tables
  transacts hlive := by
    obtain ⟨hbefore, htransaction, -⟩ := hspares hlive
    rw [htransaction]
    exact h.transacts hbefore

end AtStage

/-- A rollback ends the delivery, whether or not it succeeds. -/
theorem Point.Handles.rolledBack {fault : Fault} {answer : Except DatabaseError Unit}
    (h : (rollingBack claimed.session fault : Point α).Handles duties claimed journal server)
    (hanswer : server.answer now chance (.execute claimed.session (.command .rollback) : Call α) =
      (server', some answer))
    (hleads : GivesUp claimed.session bounds bounds' point) :
    point.Handles duties claimed
      (journal.answered now (.execute claimed.session (.command .rollback) : Call α) (some answer))
      server' := by
  obtain ⟨-, hfailed, hinterrupts⟩ := h
  have htables := @Server.tables_exchange server claimed.session now chance.mishap
    (.command .rollback) (by simp)
  rw [Server.exchange_of_answer hanswer] at htables
  rw [hleads.2]
  have hsame : journal.answered now (.execute claimed.session (.command .rollback) : Call α)
      (some answer) = journal := by
    cases answer with
    | error => exact congrArg (Journal.mk _ _ _ _) hfailed.symm
    | ok => rfl
  rw [hsame]
  refine ⟨fun hsmooth ↦ absurd (hfailed.symm.trans hsmooth) (by decide), fun _ ↦ ?_⟩
  rw [htables]
  exact hinterrupts

/-- Others leave the tables and the session alone. -/
theorem Point.Handles.spared (h : point.Handles duties claimed journal server)
    (htables : server'.store.tables = server.store.tables)
    (hspares : server.Spares claimed.session server') :
    point.Handles duties claimed journal server' := by
  cases point with
  | working => exact ⟨h.1, h.2.spared htables hspares⟩
  | rollingBack => exact ⟨h.1, h.2.1, htables ▸ h.2.2⟩
  | idle | starting | atConnectGate | connecting | atFailureGate | asleep | polling | closing
    | crashed =>
    simp only [Handles] at h ⊢
    rw [htables]
    exact h

end TableQueue
