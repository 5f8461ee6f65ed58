import TableQueue.Database.Error
import TableQueue.Job.Meta

/-!
# Rows

A queue row holds the metadata of a job and the cells of the job itself; an archived row holds the
diagnosis in place of the schedule. The tables admit rows whose metadata has gaps, and such a row is
refused when its metadata is read.
-/

namespace TableQueue

/-- The value of a job column. -/
inductive Cell where
  | null
  | text (s : String)
  | whole (n : Int)
  | truth (b : Bool)
  /-- Bytes, as hexadecimal digits. -/
  | bytes (digits : String)
deriving DecidableEq, Repr, Inhabited

namespace Cell

/-- Equality in the database: a missing value equals nothing. -/
def equals : Cell → Cell → Bool
  | null, _ | _, null => false
  | a, b => decide (a = b)

end Cell

structure Row where
  queue : String
  queued : Option Instant
  dequeueAfter : Instant
  tries : Option Int
  job : List Cell
deriving DecidableEq, Repr, Inhabited

structure ArchivedRow where
  queue : String
  queued : Instant
  failedAt : Instant
  diagnosis : String
  job : List Cell
deriving DecidableEq, Repr, Inhabited

namespace Row

def missing (column : Nat) : DatabaseError :=
  .columnDecode column "unexpected null; try decoding as an `Option`"

/-- Reads the metadata of a row. The attempt about to be made counts. -/
def metadata (row : Row) : Except DatabaseError JobMeta :=
  match row.tries, row.queued with
  | none, _ => .error (missing 3)
  | some _, none => .error (missing 1)
  | some tries, some queued =>
    .ok ⟨row.queue, .ofInstant queued, .ofInstant row.dequeueAfter, JobMeta.nextTry tries⟩

end Row

end TableQueue
