import TableQueue.Proofs.Deliveries.Stages
import TableQueue.Proofs.Statements.Tokens

/-!
# Columns, placeholders and parameters

The text of a statement numbers its placeholders, a worker binds its parameters by position, and what
is returned is read by position. All three follow the order of the columns: an insertion has one
value for each column and takes every parameter once, so that each column is given the value meant
for it, whatever the number of job columns. A row that is claimed and put back is therefore read
again as it was.
-/

namespace TableQueue

open Statement (Argument)

variable {α : Type} {columns duplicate : List String}

/-! ## Rows by columns -/

def Row.named (columns : List String) (row : Row) : List (String × Option Argument) :=
  [("consumer", some (.text row.queue)), ("queued", row.queued.map .instant),
    ("dequeueAfter", some (.instant row.dequeueAfter)), ("tries", row.tries.map .number)] ++
    columns.zip (row.job.map fun cell ↦ some (.cell cell))

def ArchivedRow.named (columns : List String) (row : ArchivedRow) :
    List (String × Option Argument) :=
  [("consumer", some (.text row.queue)), ("queued", some (.instant row.queued)),
    ("failedAt", some (.instant row.failedAt)), ("diag", some (.text row.diagnosis))] ++
    columns.zip (row.job.map fun cell ↦ some (.cell cell))

/-- The columns that are returned have the values that are named. -/
def Gives (value : String → Option Argument) (named : List (String × Option Argument)) : Prop :=
  ∀ column ∈ named, value column.1 = column.2

/-- Columns of different names have the values that are found under their names. -/
theorem gives_lookup {named : List (String × Option Argument)}
    (h : (named.map Prod.fst).Nodup) : Gives (fun column ↦ (named.lookup column).join) named := by
  induction named with
  | nil => exact fun _ hmem ↦ absurd hmem List.not_mem_nil
  | cons first rest ih =>
    obtain ⟨name, held⟩ := first
    obtain ⟨hfirst, hrest⟩ := List.nodup_cons.1 h
    rintro ⟨other, value⟩ hmem
    obtain heq | hmem := List.mem_cons.1 hmem
    · cases heq
      simp
    · have hne : (other == name) = false :=
        beq_false_of_ne fun heq ↦ hfirst (List.mem_map.2 ⟨_, hmem, heq⟩)
      simpa only [List.lookup_cons, hne] using ih hrest _ hmem

/-- Reads metadata by position: the number of tries first, then the queue, when it was queued and
when it became eligible. Nothing is read where a value of another type stands. -/
def readMetadata? (values : List (Option Argument)) : Option (Except DatabaseError JobMeta) :=
  match values[3]?, values[0]?, values[1]?, values[2]? with
  | some none, _, _, _ => some (.error (Row.missing 3))
  | some (some (Argument.number _)), some (some (Argument.text _)), some none, _ =>
    some (.error (Row.missing 1))
  | some (some (Argument.number tries)), some (some (Argument.text queue)),
    some (some (Argument.instant queued)), some (some (Argument.instant dequeueAfter)) =>
    some (.ok ⟨queue, .ofInstant queued, .ofInstant dequeueAfter, JobMeta.nextTry tries⟩)
  | _, _, _, _ => none

namespace Row

variable {row : Row} {value : String → Option Argument}

/-- The values that are returned for a row stand in the order of its columns. -/
theorem map_columns (hvalue : Gives value (row.named columns))
    (hcells : row.job.length = columns.length) :
    (Sql.metadataColumns ++ columns).map value = (row.named columns).map Prod.snd := by
  have hcolumns : Sql.metadataColumns ++ columns = (row.named columns).map Prod.fst := by
    rw [named, List.map_append, List.map_fst_zip (by simp [hcells])]
    rfl
  rw [hcolumns, List.map_map]
  exact List.map_congr_left hvalue

/-- Metadata is read from the first columns and the job from those behind them. -/
theorem readMetadata?_map_columns (hvalue : Gives value (row.named columns))
    (hcells : row.job.length = columns.length) :
    readMetadata? ((Sql.metadataColumns ++ columns).map value) = some row.metadata ∧
      ((Sql.metadataColumns ++ columns).map value).drop Sql.metadataCount =
        row.job.map fun cell ↦ some (.cell cell) := by
  rw [map_columns hvalue hcells, named, List.map_append, List.map_snd_zip (by simp [hcells])]
  refine ⟨?_, rfl⟩
  obtain ⟨queue, queued, dequeueAfter, tries, cells⟩ := row
  cases tries <;> cases queued <;> rfl

end Row

namespace Duties.Renders

variable {duties : Duties α} {row : Row} {merged : List Row} {job : Job α}

/-- What is read of a job that has been put back differs by one attempt. -/
theorem metadata_savedRow (h : duties.Renders row merged job) :
    (duties.savedRow job job.details.dequeueAfter.instant).metadata =
      .ok { job.details with tries := JobMeta.nextTry job.details.tries } := by
  obtain ⟨tries, queued, -, -, hdetails⟩ := Row.metadata_eq_ok h.details
  rw [Duties.savedRow, hdetails]
  rfl

/-- A job into which nothing has been merged is written as it was read. -/
theorem encode_eq (h : duties.Renders row [] job) (hcodec : duties.codec.Preserves row.job) :
    duties.codec.encode job.payload = row.job := by
  obtain ⟨payload, hdecode, hmerged⟩ := h.payload
  have hsame : payload = job.payload := by
    unfold Duties.mergeRows at hmerged
    split at hmerged <;> exact Option.some.inj hmerged
  rw [← hsame, hcodec _ hdecode]

end Duties.Renders

namespace Sql

/-! ## Values of expressions -/

def argumentAt? (arguments : List Argument) : Nat → Option Argument
  | 0 => none
  | k + 1 => arguments[k]?

/-- The value of an expression, given the parameters and the present. -/
def Expression.value? (arguments : List Argument) (now : Instant) : Expression → Option Argument
  | parameter index _ => argumentAt? arguments index
  | present => some (.instant now)
  | presentPlusMillis index =>
    match argumentAt? arguments index with
    | some (.number millis) => some (.instant ⟨now.nanos + millis * 1000000⟩)
    | _ => none

theorem symbol_comma_notMem (value : Expression) : Token.symbol ',' ∉ value.tokens := by
  obtain ⟨index, _ | cast⟩ | _ | index := value <;> simp [Expression.tokens]

def Expression.hasBareCast : Expression → Bool
  | parameter _ (some cast) => isBareName cast
  | _ => true

theorem Expression.forall_isNamed {values : List Expression}
    (h : values.all hasBareCast = true) : ∀ value ∈ values, value.IsNamed := by
  intro value hvalue
  have hbare := List.all_eq_true.1 h value hvalue
  obtain ⟨index, _ | cast⟩ | _ | index := value
  all_goals first | trivial | exact isName_of_isBareName hbare

theorem length_jobParameters (first : Nat) (columns : List String) :
    (jobParameters first columns).length = columns.length := by
  simp [jobParameters]

theorem isNamed_of_mem_jobParameters {first : Nat} {value : Expression}
    (h : value ∈ jobParameters first columns) : value.IsNamed := by
  obtain ⟨i, -, rfl⟩ := List.mem_map.1 h
  trivial

theorem filterMap_parameter?_jobParameters (first : Nat) (columns : List String) :
    (jobParameters first columns).filterMap Expression.parameter? =
      List.range' first columns.length := by
  rw [jobParameters, List.filterMap_map, List.range'_eq_map_range, ← List.filterMap_eq_map]
  rfl

/-- Behind other parameters, the job parameters are the cells. -/
theorem map_value?_jobParameters {front : List Argument} {cells : List Cell}
    (hcells : cells.length = columns.length) (now : Instant) :
    (jobParameters (front.length + 1) columns).map
      (Expression.value? (front ++ cells.map .cell) now) =
        cells.map fun cell ↦ some (.cell cell) := by
  refine List.ext_getElem (by simp [length_jobParameters, hcells]) fun i hi hi' ↦ ?_
  have hindex : front.length + 1 + i = front.length + i + 1 := by omega
  have hi : i < cells.length := by simpa using hi'
  simp [jobParameters, Expression.value?, hindex, argumentAt?, hi]

/-- Between the commas of a column list stand the columns. -/
theorem splitOn_columnTokens (h : columns ≠ []) :
    (columnTokens columns).splitOn (.symbol ',') = columns.map fun column ↦ [.word column] :=
  List.splitOn_intercalate _ (by simp) (List.map_eq_nil_iff.not.2 h)

namespace Insertion

/-! ## The order of an insertion -/

/-- An insertion takes some parameters for its fixed columns and then one for every job column. -/
structure Takes (insertion : Insertion) (front : List Expression) (taken : Nat) : Prop where
  isName_table : IsName insertion.table
  isName_fixedColumn : ∀ column ∈ insertion.fixedColumns, IsName column
  isNamed_front : ∀ value ∈ front, value.IsNamed
  length_front : front.length = insertion.fixedColumns.length
  front_ne_nil : front ≠ []
  parameters_front : front.filterMap Expression.parameter? = List.range' 1 taken
  values_eq : insertion.values = front ++ jobParameters (taken + 1) insertion.jobColumns

/-- The text of an insertion lists as many values as columns. Its placeholders are the parameters in
their order, each once, of which the job columns have the last. -/
structure IsOrdered (insertion : Insertion) (taken : Nat) : Prop where
  tokens_text : Sql.tokens insertion.text =
    [.word "INSERT", .word "INTO", .word insertion.table, .symbol '('] ++
      columnTokens insertion.columns ++ [.symbol ')', .word "VALUES", .symbol '('] ++
      commaSeparated (insertion.values.map Expression.tokens) ++ [.symbol ')']
  splitOn_columns : (columnTokens insertion.columns).splitOn (.symbol ',') =
    insertion.columns.map fun column ↦ [.word column]
  splitOn_values : (commaSeparated (insertion.values.map Expression.tokens)).splitOn (.symbol ',') =
    insertion.values.map Expression.tokens
  length_values : insertion.values.length = insertion.columns.length
  parameters : (Sql.tokens insertion.text).filterMap Token.parameter? =
    List.range' 1 (taken + insertion.jobColumns.length)
  jobColumn : ∀ j column, insertion.jobColumns[j]? = some column →
    insertion.columns[insertion.fixedColumns.length + j]? = some column ∧
      insertion.values[insertion.fixedColumns.length + j]? = some (.parameter (taken + 1 + j) none)

variable {insertion : Insertion} {front : List Expression} {taken : Nat}

namespace Takes

theorem isNamed (h : insertion.Takes front taken)
    (hcolumns : ∀ column ∈ insertion.jobColumns, IsName column) : insertion.IsNamed where
  table := h.isName_table
  columns column hcolumn :=
    (List.mem_append.1 hcolumn).elim (h.isName_fixedColumn column) (hcolumns column)
  values value hvalue := by
    rw [h.values_eq] at hvalue
    exact (List.mem_append.1 hvalue).elim (h.isNamed_front value) isNamed_of_mem_jobParameters
  fixedColumns_ne_nil := by
    rw [← List.length_pos_iff, ← h.length_front, List.length_pos_iff]
    exact h.front_ne_nil

/-- An insertion takes its parameters in order. -/
theorem isOrdered (h : insertion.Takes front taken)
    (hcolumns : ∀ column ∈ insertion.jobColumns, IsName column) : insertion.IsOrdered taken where
  tokens_text := Insertion.tokens_text (h.isNamed hcolumns)
  splitOn_columns := splitOn_columnTokens <|
    List.append_ne_nil_of_left_ne_nil (h.isNamed hcolumns).fixedColumns_ne_nil _
  splitOn_values := by
    refine List.splitOn_intercalate _ ?_ ?_
    · rintro item hitem
      obtain ⟨value, -, rfl⟩ := List.mem_map.1 hitem
      exact symbol_comma_notMem value
    · rw [h.values_eq]
      simp [h.front_ne_nil]
  length_values := by
    rw [h.values_eq, List.length_append, h.length_front, length_jobParameters, Insertion.columns,
      List.length_append]
  parameters := by
    rw [Insertion.tokens_text (h.isNamed hcolumns), filterMap_parameter?_tokens, h.values_eq,
      List.filterMap_append, h.parameters_front, filterMap_parameter?_jobParameters,
      ← List.range'_append_1, Nat.add_comm 1 taken]
  jobColumn j column hj := by
    have hlt : j < insertion.jobColumns.length := (List.getElem?_eq_some_iff.1 hj).1
    rw [h.values_eq, ← h.length_front]
    constructor
    · rw [Insertion.columns, h.length_front, List.getElem?_append_right (by omega)]
      simpa using hj
    · rw [List.getElem?_append_right (by omega)]
      simp [jobParameters, hlt]

end Takes

theorem takes_retry (columns : List String) :
    (retry columns).Takes [.parameter 1 (some "TEXT"), .parameter 2 (some "TIMESTAMPTZ"),
      .parameter 3 (some "TIMESTAMPTZ"), .parameter 4 (some "INTEGER")] 4 where
  isName_table := isName_of_isBareName (by decide : isBareName "queue" = true)
  isName_fixedColumn _ h := isName_fixedColumn (List.mem_append_left _ h)
  isNamed_front := Expression.forall_isNamed (by decide)
  length_front := rfl
  front_ne_nil := List.cons_ne_nil _ _
  parameters_front := rfl
  values_eq := rfl

theorem takes_postpone (columns : List String) :
    (postpone columns).Takes [.parameter 1 (some "TEXT"), .parameter 2 (some "TIMESTAMPTZ"),
      .presentPlusMillis 3, .parameter 4 (some "INTEGER")] 4 where
  isName_table := isName_of_isBareName (by decide : isBareName "queue" = true)
  isName_fixedColumn _ h := isName_fixedColumn (List.mem_append_left _ h)
  isNamed_front := Expression.forall_isNamed (by decide)
  length_front := rfl
  front_ne_nil := List.cons_ne_nil _ _
  parameters_front := rfl
  values_eq := rfl

theorem takes_archive (columns : List String) :
    (archive columns).Takes [.parameter 1 (some "TEXT"), .parameter 2 (some "TIMESTAMPTZ"),
      .present, .parameter 3 (some "TEXT")] 3 where
  isName_table := isName_of_isBareName (by decide : isBareName "queue_error" = true)
  isName_fixedColumn _ h := isName_fixedColumn (List.mem_append_right _ h)
  isNamed_front := Expression.forall_isNamed (by decide)
  length_front := rfl
  front_ne_nil := List.cons_ne_nil _ _
  parameters_front := rfl
  values_eq := rfl

/-! ## What an insertion writes -/

/-- What an insertion writes to its columns, given the parameters and the present. -/
def assignments (insertion : Insertion) (arguments : List Argument) (now : Instant) :
    List (String × Option Argument) :=
  insertion.columns.zip (insertion.values.map (Expression.value? arguments now))

/-- A statement brings as many parameters as an insertion takes, and they are written to the columns
as named. -/
structure IsFilled (insertion : Insertion) (taken : Nat) (statement : Statement) (now : Instant)
    (named : List (String × Option Argument)) : Prop where
  length_arguments : statement.arguments.length = taken + insertion.jobColumns.length
  assignments_eq : insertion.assignments statement.arguments now = named

/-- A statement fills an insertion that takes as many parameters as it brings. -/
theorem Takes.isFilled (h : insertion.Takes front taken) {statement : Statement}
    {bound : List Argument} {cells : List Cell}
    (harguments : statement.arguments = bound ++ cells.map .cell) (hbound : bound.length = taken)
    (hcells : cells.length = insertion.jobColumns.length) (now : Instant) :
    insertion.IsFilled taken statement now
      (insertion.fixedColumns.zip (front.map (Expression.value? statement.arguments now)) ++
        insertion.jobColumns.zip (cells.map fun cell ↦ some (.cell cell))) where
  length_arguments := by rw [harguments, List.length_append, hbound, List.length_map, hcells]
  assignments_eq := by
    rw [assignments, h.values_eq, List.map_append, Insertion.columns,
      List.zip_append (by rw [List.length_map, h.length_front]), harguments, ← hbound,
      map_value?_jobParameters hcells]

section Filling

variable {cells : List Cell} (hcells : cells.length = columns.length) (now : Instant)
include hcells

/-- A job that is put back fills every column of its row. -/
theorem isFilled_putBack (queue : String) (queued dequeueAfter : Instant) (tries : Int) :
    (retry columns).IsFilled 4 (.putBack queue queued dequeueAfter tries cells) now
      (Row.named columns ⟨queue, some queued, dequeueAfter, some tries, cells⟩) :=
  (takes_retry columns).isFilled rfl rfl hcells now

/-- A job that is put off fills every column of its row. -/
theorem isFilled_putOff (queue : String) (queued : Instant) (delayMillis : Nat) (tries : Int) :
    (postpone columns).IsFilled 4 (.putOff queue queued delayMillis tries cells) now
      (Row.named columns
        ⟨queue, some queued, now.after (Span.ofMillis delayMillis), some tries, cells⟩) :=
  (takes_postpone columns).isFilled rfl rfl hcells now

/-- An archived job fills every column of its row. -/
theorem isFilled_archive (queue : String) (queued : Instant) (diagnosis : String) :
    (archive columns).IsFilled 3 (.archive queue queued diagnosis cells) now
      (ArchivedRow.named columns ⟨queue, queued, now, diagnosis, cells⟩) :=
  (takes_archive columns).isFilled rfl rfl hcells now

end Filling

end Insertion

/-! ## Duplicates -/

def isMet (value : String → Option Argument) (arguments : List Argument) (pair : String × Nat) :
    Bool :=
  match value pair.1, argumentAt? arguments pair.2 with
  | some (.cell held), some (.cell wanted) => held.equals wanted
  | _, _ => false

theorem isMet_append {value : String → Option Argument} {front rest : List Argument}
    {column : String} {held wanted : Cell} (hheld : value column = some (.cell held)) :
    isMet value (front ++ .cell wanted :: rest) (column, front.length + 1) =
      held.equals wanted := by
  simp [isMet, argumentAt?, hheld]

/-- A job column of a row holds the cell at its position. -/
theorem exists_cell {row : Row} {value : String → Option Argument} {column : String}
    {position : Nat} (hvalue : Gives value (row.named columns))
    (hcells : row.job.length = columns.length) (hcolumn : columns[position]? = some column) :
    ∃ held, row.job[position]? = some held ∧ value column = some (.cell held) := by
  obtain ⟨hlt, rfl⟩ := List.getElem?_eq_some_iff.1 hcolumn
  refine ⟨_, List.getElem?_eq_getElem (hcells ▸ hlt), ?_⟩
  refine hvalue (columns[position], _) (List.mem_append_right _ (List.mem_iff_getElem?.2 ?_))
  exact ⟨position, by simp [hlt, hcells]⟩

/-- Cells that are to be found at some positions are those to be found in the columns there. -/
theorem agrees_eq_all_isMet {row : Row} {value : String → Option Argument}
    (hvalue : Gives value (row.named columns)) (hcells : row.job.length = columns.length)
    {positions : List Nat} {wanted : List Cell} (front : List Argument)
    (hpositions : positions.map (columns[·]?) = duplicate.map some)
    (hwanted : wanted.length = duplicate.length) :
    Store.agrees row.job (positions.zip wanted) =
      (duplicate.zipIdx (front.length + 1)).all (isMet value (front ++ wanted.map .cell)) := by
  induction positions generalizing duplicate wanted front with
  | nil =>
    obtain rfl : duplicate = [] := by simpa using hpositions.symm
    rfl
  | cons position positions ih =>
    obtain _ | ⟨column, duplicate⟩ := duplicate
    · cases hpositions
    obtain _ | ⟨cell, wanted⟩ := wanted
    · cases hwanted
    obtain ⟨hposition, hpositions⟩ := List.cons.inj hpositions
    obtain ⟨held, hjob, hheld⟩ := exists_cell hvalue hcells hposition
    -- The parameters in front grow by the cell that has been compared.
    have hrest := ih (front ++ [.cell cell]) hpositions (Nat.succ.inj hwanted)
    rw [List.append_assoc, List.length_append, List.length_singleton, List.singleton_append] at hrest
    rw [List.zipIdx_cons, List.all_cons, List.map_cons, isMet_append hheld, ← hrest]
    simp only [Store.agrees, List.zip_cons_cons, List.all_cons, hjob]

/-- The cells to be found in duplicates are the parameters behind the queue. -/
theorem arguments_takeDuplicates {positions : List Nat} {wanted : List Cell}
    (h : positions.length = wanted.length) (queue : String) (includePostponed : Bool) :
    (Statement.takeDuplicates queue (positions.zip wanted) includePostponed).arguments =
      .text queue :: wanted.map .cell := by
  have hsnd : (positions.zip wanted).map Prod.snd = wanted := List.map_snd_zip h.ge
  rw [Statement.arguments, ← hsnd, List.map_map, hsnd]
  rfl

/-! ## The statements of a worker -/

/-- The texts of the statements agree with the parameters that a worker binds and with the places at
which it reads what is returned. A codec is presumed to write as many cells as there are job columns,
and a deduplicator as many as there are duplicate columns. -/
structure Agreement (duties : Duties α) (columns duplicate : List String) : Prop where
  retry : (Sql.retry columns).IsOrdered 4
  postpone : (Sql.postpone columns).IsOrdered 4
  archive : (Sql.archive columns).IsOrdered 3
  /-- A job is put back with the columns of the row that the tables then hold. -/
  puttingBack : ∀ job : Job α, (duties.codec.encode job.payload).length = columns.length →
    ∀ session failure begun, ∃ statement,
      Point.jobCall duties session job (.puttingBack failure begun) = .execute session statement ∧
        ∀ now, (Sql.retry columns).IsFilled 4 statement now
            ((duties.savedRow job job.details.dequeueAfter.instant).named columns) ∧
          ∀ store : Store, (store.execute session now statement).1 =
            store.insert session (duties.savedRow job job.details.dequeueAfter.instant) now
  puttingOff : ∀ job : Job α, (duties.codec.encode job.payload).length = columns.length →
    ∀ session failure delayMillis begun, ∃ statement,
      Point.jobCall duties session job (.puttingOff failure delayMillis begun) =
          .execute session statement ∧
        ∀ now, (Sql.postpone columns).IsFilled 4 statement now
            ((duties.savedRow job (now.after (.ofMillis delayMillis))).named columns) ∧
          ∀ store : Store, (store.execute session now statement).1 =
            store.insert session (duties.savedRow job (now.after (.ofMillis delayMillis))) now
  archiving : ∀ job : Job α, (duties.codec.encode job.payload).length = columns.length →
    ∀ session failure begun, ∃ statement,
      Point.jobCall duties session job (.archiving failure begun) = .execute session statement ∧
        ∀ now, (Sql.archive columns).IsFilled 3 statement now
            ((duties.archivedRow job failure now).named columns) ∧
          ∀ (store : Store) (changes : Changes) (savepoint : Option Changes),
            store.transaction session = .active changes savepoint →
            (store.execute session now statement).1.transaction session = .active
              { changes with archived :=
                changes.archived ++ [(store.next, duties.archivedRow job failure now)] } savepoint
  /-- Both lists of conditions pair the duplicate columns with the parameters behind the queue. -/
  removal : ∀ includePostponed, ∃ text,
    deleteDuplicate columns (some duplicate) includePostponed = some text ∧
      tokens text = removalTokens columns duplicate includePostponed ∧
      (tokens text).filterMap Token.parameter? =
        [1, 1] ++ List.range' 2 duplicate.length ++ List.range' 2 duplicate.length
  /-- The rows that the tables give up as duplicates are those that meet the conditions. -/
  deduplicating : ∀ deduplicator, duties.deduplicator = some deduplicator →
    deduplicator.positions.map (columns[·]?) = duplicate.map some →
    ∀ job : Job α, (deduplicator.values job.payload).length = duplicate.length →
    ∀ session begun, ∃ statement,
      Point.jobCall duties session job (.deduplicating begun) = .execute session statement ∧
        statement.arguments =
          .text job.details.queue :: (deduplicator.values job.payload).map .cell ∧
        statement.arguments.length = 1 + duplicate.length ∧
        ∀ (row : Row) (value : String → Option Argument), Gives value (row.named columns) →
          row.job.length = columns.length →
          Store.agrees row.job (Point.duplicateKey duties job) =
            (duplicateMatches duplicate).all (isMet value statement.arguments)
  claim : tokens (Sql.claim columns) = claimTokens columns
  splitOn_returned : (columnTokens (metadataColumns ++ columns)).splitOn (.symbol ',') =
    (metadataColumns ++ columns).map fun column ↦ [.word column]
  /-- What is read of the columns that are returned for a row is what the row holds. -/
  reading : ∀ (row : Row) (value : String → Option Argument), Gives value (row.named columns) →
    row.job.length = columns.length →
    readMetadata? ((metadataColumns ++ columns).map value) = some row.metadata ∧
      ((metadataColumns ++ columns).map value).drop metadataCount =
        row.job.map fun cell ↦ some (.cell cell)
  /-- A row that is claimed and put back is read as before, but for the number of tries. The cells
  are those of the job, which are those of the row if nothing has been merged into it. -/
  retried : ∀ (row : Row) (merged : List Row) (job : Job α), duties.Renders row merged job →
    (duties.codec.encode job.payload).length = columns.length →
    ∀ session failure begun, ∃ statement,
      Point.jobCall duties session job (.puttingBack failure begun) = .execute session statement ∧
        ∀ now value, Gives value ((Sql.retry columns).assignments statement.arguments now) →
          row.metadata = .ok job.details ∧
            readMetadata? ((metadataColumns ++ columns).map value) =
              some (.ok { job.details with tries := JobMeta.nextTry job.details.tries }) ∧
            ((metadataColumns ++ columns).map value).drop metadataCount =
              (duties.codec.encode job.payload).map (fun cell ↦ some (.cell cell)) ∧
            (duties.codec.Preserves row.job → merged = [] → duties.codec.encode job.payload = row.job)

/-- The statements, their parameters and what is read agree for all names of columns. -/
theorem agreement (duties : Duties α) (hcolumns : ∀ column ∈ columns, IsName column)
    (hduplicate : ∀ column ∈ duplicate, IsName column) (hne : duplicate ≠ []) :
    Agreement duties columns duplicate where
  retry := (Insertion.takes_retry columns).isOrdered hcolumns
  postpone := (Insertion.takes_postpone columns).isOrdered hcolumns
  archive := (Insertion.takes_archive columns).isOrdered hcolumns
  puttingBack job hcells _ _ _ :=
    ⟨_, rfl, fun now ↦ ⟨Insertion.isFilled_putBack hcells now _ _ _ _, fun _ ↦ rfl⟩⟩
  puttingOff job hcells _ _ _ _ :=
    ⟨_, rfl, fun now ↦ ⟨Insertion.isFilled_putOff hcells now _ _ _ _, fun _ ↦ rfl⟩⟩
  archiving job hcells _ _ _ :=
    ⟨_, rfl, fun now ↦ ⟨Insertion.isFilled_archive hcells now _ _ _,
      fun _ _ _ hactive ↦ Store.transaction_archive hactive now _ _ _ _⟩⟩
  removal includePostponed := by
    obtain ⟨text, htext, htokens⟩ :=
      tokens_deleteDuplicate hne hcolumns hduplicate includePostponed
    exact ⟨text, htext, htokens, htokens ▸ filterMap_parameter?_removalTokens ..⟩
  deduplicating deduplicator hsome hpositions job hvalues session begun := by
    have hlength : deduplicator.positions.length = (deduplicator.values job.payload).length := by
      rw [hvalues]
      simpa using congrArg List.length hpositions
    have hkey : Point.duplicateKey duties job =
        deduplicator.positions.zip (deduplicator.values job.payload) := by
      rw [Point.duplicateKey, hsome]
      rfl
    have harguments := arguments_takeDuplicates hlength job.details.queue
      duties.settings.includePostponedDuplicates
    rw [← hkey] at harguments
    refine ⟨_, rfl, harguments, ?_, fun row value hvalue hcells ↦ ?_⟩
    · rw [harguments, List.length_cons, List.length_map, hvalues, Nat.add_comm]
    · rw [harguments, hkey]
      exact agrees_eq_all_isMet hvalue hcells [.text job.details.queue] hpositions hvalues
  claim := tokens_claim hcolumns
  splitOn_returned := splitOn_columnTokens (List.cons_ne_nil _ _)
  reading _ _ hvalue hcells := Row.readMetadata?_map_columns hvalue hcells
  retried row merged job hrenders hcells _ failure _ := by
    refine ⟨_, rfl, fun now value hvalue ↦ ⟨hrenders.details, ?_⟩⟩
    rw [(Insertion.isFilled_putBack hcells now _ _ _ _).assignments_eq] at hvalue
    obtain ⟨hmetadata, hjob⟩ := Row.readMetadata?_map_columns hvalue hcells
    refine ⟨?_, hjob, ?_⟩
    · rw [hmetadata]
      exact congrArg some hrenders.metadata_savedRow
    · rintro hcodec rfl
      exact hrenders.encode_eq hcodec

namespace Sample

def discerning : Duties (List Cell) :=
  TableQueue.Sample.duties (some ⟨[0], List.take 1, fun job _ ↦ .ok job⟩)

def discerned : Job (List Cell) :=
  ⟨⟨"a", .ofInstant ⟨0⟩, .ofInstant ⟨3000000000⟩, 1⟩, [.text "x", .whole 7]⟩

end Sample

theorem agreement_of_twoColumns :
    (∀ column ∈ ["job", "priority"], IsName column) ∧ (∀ column ∈ ["job"], IsName column) ∧
      ["job"] ≠ [] ∧
      (tokens (Sql.retry ["job", "priority"]).text).filterMap Token.parameter? =
        [1, 2, 3, 4, 5, 6] ∧
      ∃ statement value, Point.jobCall Sample.discerning 0 Sample.discerned
          (.puttingBack (.retryable []) ⟨0⟩) = .execute 0 statement ∧
        Gives value ((Sql.retry ["job", "priority"]).assignments statement.arguments ⟨0⟩) ∧
        readMetadata? ((metadataColumns ++ ["job", "priority"]).map value) =
          some (.ok { Sample.discerned.details with tries := 2 }) ∧
        ((metadataColumns ++ ["job", "priority"]).map value).drop metadataCount =
          [some (.cell (.text "x")), some (.cell (.whole 7))] := by
  have hcolumns : ∀ column ∈ ["job", "priority"], IsName column := forall_isName (by decide)
  have hduplicate : ∀ column ∈ ["job"], IsName column := forall_isName (by decide)
  have hne : ["job"] ≠ [] := List.cons_ne_nil _ _
  have hagreement := agreement Sample.discerning hcolumns hduplicate hne
  have hrenders : Sample.discerning.Renders (TableQueue.Sample.row 3 [.text "x", .whole 7]) []
      Sample.discerned :=
    ⟨rfl, ⟨_, rfl, rfl⟩, fun _ ↦ rfl⟩
  obtain ⟨statement, hcall, hread⟩ := hagreement.retried _ _ _ hrenders rfl 0 (.retryable []) ⟨0⟩
  have hstatement : statement = .putBack "a" ⟨0⟩ ⟨3000000000⟩ 1 [.text "x", .whole 7] :=
    (Call.execute.inj hcall).2.symm
  have hnodup : (((Sql.retry ["job", "priority"]).assignments statement.arguments ⟨0⟩).map
      Prod.fst).Nodup := by
    rw [hstatement]
    decide
  have hgives := gives_lookup hnodup
  obtain ⟨-, hmetadata, hcells, -⟩ := hread _ _ hgives
  exact ⟨hcolumns, hduplicate, hne, hagreement.retry.parameters,
    statement, _, hcall, hgives, hmetadata, hcells⟩

end Sql

end TableQueue
