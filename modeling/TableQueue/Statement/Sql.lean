/-!
# Statement texts

The texts of the queue statements, made once from the job columns. The tables are `queue` and
`queue_error`; both hold the metadata columns in a fixed order and then the job columns. Metadata
parameters carry casts, so a statement can be prepared before any value is known; job parameters
follow them in column order.
-/

namespace TableQueue.Sql

/-- The metadata columns of the queue, in the order in which they are read and written. -/
def metadataColumns : List String := ["consumer", "queued", "dequeueAfter", "tries"]

def archiveColumns : List String := ["consumer", "queued", "failedAt", "diag"]

/-- The first column of a job among the columns that are read. -/
def metadataCount : Nat := metadataColumns.length

def metadataText : String := ", ".intercalate metadataColumns

/-- A column list: fixed columns and then the job columns, if there is any text to them. -/
def columnList (fixed job : List String) : String :=
  let jobText := ", ".intercalate job
  if jobText.isEmpty then ", ".intercalate fixed else ", ".intercalate fixed ++ ", " ++ jobText

/-- The value of a column in an insertion. -/
inductive Expression where
  /-- A parameter, with a cast for metadata. -/
  | parameter (index : Nat) (cast : Option String)
  /-- The present. -/
  | present
  /-- The present and a number of milliseconds given by a parameter. -/
  | presentPlusMillis (index : Nat)
deriving DecidableEq, Repr

namespace Expression

def placeholder (index : Nat) : String := "$" ++ toString index

def text : Expression → String
  | parameter index none => placeholder index
  | parameter index (some cast) => placeholder index ++ "::" ++ cast
  | present => "clock_timestamp()"
  | presentPlusMillis index =>
    "clock_timestamp() + " ++ placeholder index ++ "::BIGINT * INTERVAL '1 MILLISECOND'"

def parameter? : Expression → Option Nat
  | parameter index _ | presentPlusMillis index => some index
  | present => none

end Expression

/-- An insertion of one row: the columns and their values. -/
structure Insertion where
  table : String
  fixedColumns : List String
  jobColumns : List String
  values : List Expression
deriving DecidableEq, Repr

namespace Insertion

def columns (insertion : Insertion) : List String :=
  insertion.fixedColumns ++ insertion.jobColumns

def text (insertion : Insertion) : String :=
  "INSERT INTO " ++ insertion.table ++ "(" ++
    columnList insertion.fixedColumns insertion.jobColumns ++ ") VALUES(" ++
    ", ".intercalate (insertion.values.map Expression.text) ++ ")"

end Insertion

/-- Parameters for the job columns, numbered from `first` on. -/
def jobParameters (first : Nat) (job : List String) : List Expression :=
  (List.range job.length).map fun i ↦ .parameter (first + i) none

def retry (job : List String) : Insertion where
  table := "queue"
  fixedColumns := metadataColumns
  jobColumns := job
  values :=
    [.parameter 1 (some "TEXT"), .parameter 2 (some "TIMESTAMPTZ"),
      .parameter 3 (some "TIMESTAMPTZ"), .parameter 4 (some "INTEGER")] ++ jobParameters 5 job

def postpone (job : List String) : Insertion where
  table := "queue"
  fixedColumns := metadataColumns
  jobColumns := job
  values :=
    [.parameter 1 (some "TEXT"), .parameter 2 (some "TIMESTAMPTZ"), .presentPlusMillis 3,
      .parameter 4 (some "INTEGER")] ++ jobParameters 5 job

/-- Archives a failed job. -/
def archive (job : List String) : Insertion where
  table := "queue_error"
  fixedColumns := archiveColumns
  jobColumns := job
  values :=
    [.parameter 1 (some "TEXT"), .parameter 2 (some "TIMESTAMPTZ"), .present,
      .parameter 3 (some "TEXT")] ++ jobParameters 4 job

/-- The oldest eligible row of a queue. -/
def queueTimestamp : String :=
  "SELECT dequeueAfter FROM queue WHERE consumer=$1::TEXT AND dequeueAfter<=clock_timestamp() " ++
    "ORDER BY consumer, dequeueAfter LIMIT 1"

/-- The lower bound for a queue without an eligible row. Rows committed shortly before the probe may
not have been visible to it, so the bound lies half a second back. -/
def currentTimestamp : String :=
  "SELECT clock_timestamp() - INTERVAL '500 MILLISECONDS'"

/-- Takes the first eligible row of a queue that is not below a lower bound. -/
def claim (job : List String) : String :=
  "DELETE FROM queue WHERE ctid=(SELECT ctid FROM queue WHERE consumer=$1::TEXT " ++
    "AND dequeueAfter<=clock_timestamp() AND dequeueAfter>=$2::TIMESTAMPTZ " ++
    "ORDER BY consumer, dequeueAfter FOR UPDATE SKIP LOCKED LIMIT 1) RETURNING " ++
    columnList metadataColumns job

/-- The conditions that pair each duplicate column with its parameter; the queue name is the first
parameter. -/
def duplicateMatches (duplicate : List String) : List (String × Nat) :=
  duplicate.zipIdx 2

def matchText (duplicate : List String) : String :=
  " AND ".intercalate ((duplicateMatches duplicate).map fun pair ↦
    pair.1 ++ "=" ++ Expression.placeholder pair.2)

/-- Takes every duplicate of a job; nothing to do without duplicate columns. -/
def deleteDuplicate (job : List String) (duplicate : Option (List String))
    (includePostponed : Bool) : Option String :=
  match duplicate with
  | none | some [] => none
  | some columns =>
    let eligible := if includePostponed then "" else " AND dequeueAfter<=clock_timestamp()"
    let condition := matchText columns
    some ("DELETE FROM queue WHERE consumer=$1::TEXT" ++ eligible ++
      " AND ctid IN (SELECT ctid FROM queue WHERE consumer=$1::TEXT AND " ++ condition ++
      " FOR UPDATE SKIP LOCKED) AND " ++ condition ++ " RETURNING " ++
      columnList metadataColumns job)

end TableQueue.Sql
