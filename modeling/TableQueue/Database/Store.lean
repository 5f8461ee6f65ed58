import TableQueue.Statement.Basic

/-!
# The tables and their transactions

The store keeps the committed rows of the tables and, for every session, the changes of its open
transaction. Other sessions do not see those changes before the commit, which applies all of them at
once; a rollback forgets them. A savepoint is a copy of the changes made before it. Rows that an
open transaction has deleted are locked: other sessions still see them but cannot take them.
-/

namespace TableQueue

/-- A queue row with its place in the order of insertion and the instant at which its producer
commits it. -/
structure Entry where
  number : Nat
  visibleFrom : Instant
  row : Row
deriving DecidableEq, Repr

/-- The changes of an open transaction. -/
structure Changes where
  /-- The numbers of the queue rows that it deletes. -/
  deleted : List Nat
  /-- The queue rows that it inserts. -/
  inserted : List Entry
  archived : List (Nat × ArchivedRow)
  noted : List (Nat × String)
deriving Repr

namespace Changes

def none : Changes := ⟨[], [], [], []⟩

end Changes

inductive Transaction where
  | idle
  | active (changes : Changes) (savepoint : Option Changes)
  /-- A statement has failed; only the end of the transaction or its savepoint is of use. -/
  | failed (changes : Changes) (savepoint : Option Changes)
deriving Repr

namespace Transaction

/-- The changes that a transaction has made and not undone. -/
def changes : Transaction → Changes
  | idle => Changes.none
  | active changes _ | failed changes _ => changes

end Transaction

/-- The committed tables and the transactions of the sessions. -/
structure Store where
  queue : List Entry
  archive : List (Nat × ArchivedRow)
  notes : List (Nat × String)
  /-- The number of the next inserted row. -/
  next : Nat
  /-- The transaction of each session that has had one. -/
  transactions : List (Nat × Transaction)
deriving Repr

namespace Store

def empty : Store := ⟨[], [], [], 0, []⟩

def transaction (store : Store) (session : Nat) : Transaction :=
  (store.transactions.lookup session).getD .idle

def setTransaction (store : Store) (session : Nat) (transaction : Transaction) : Store :=
  { store with transactions :=
      (session, transaction) :: store.transactions.filter (·.1 != session) }

/-- Replaces the changes of an active transaction; outside of one there is nothing to replace. -/
def setChanges (store : Store) (session : Nat) (changes : Changes) : Store :=
  match store.transaction session with
  | .active _ savepoint => store.setTransaction session (.active changes savepoint)
  | _ => store

/-- Adds an element to a table at its place in the order of insertion. -/
def place {α : Type} (number : α → Nat) (element : α) : List α → List α
  | [] => [element]
  | other :: rest =>
    if number element < number other then element :: other :: rest
    else other :: place number element rest

def placeAll {α : Type} (number : α → Nat) (elements table : List α) : List α :=
  elements.foldl (fun table element ↦ place number element table) table

/-- The committed tables after the changes of a transaction. -/
def apply (store : Store) (changes : Changes) : Store :=
  { store with
    queue := (placeAll Entry.number changes.inserted store.queue).filter
      fun entry ↦ !changes.deleted.contains entry.number
    archive := placeAll Prod.fst changes.archived store.archive
    notes := placeAll Prod.fst changes.noted store.notes }

/-- A producer's row, committed at once and visible from an instant on. -/
def produce (store : Store) (row : Row) (visibleFrom : Instant) : Store :=
  { store with
    queue := store.queue ++ [⟨store.next, visibleFrom, row⟩]
    next := store.next + 1 }

/-! ## What a session sees -/

def visible (store : Store) (session : Nat) (now : Instant) : List Entry :=
  let own := (store.transaction session).changes
  (placeAll Entry.number own.inserted store.queue).filter fun entry ↦
    !own.deleted.contains entry.number && decide (entry.visibleFrom ≤ now)

def isLocked (store : Store) (session number : Nat) : Bool :=
  store.transactions.any fun (other, transaction) ↦
    other != session && transaction.changes.deleted.contains number

/-- The queue rows that a session can take. -/
def takable (store : Store) (session : Nat) (now : Instant) : List Entry :=
  (store.visible session now).filter fun entry ↦ !store.isLocked session entry.number

/-- The entry that becomes eligible first; of several, the one inserted first. -/
def earliest : List Entry → Option Entry
  | [] => none
  | entry :: rest =>
    match earliest rest with
    | none => some entry
    | some other =>
      if entry.row.dequeueAfter ≤ other.row.dequeueAfter then some entry else some other

def isEligible (row : Row) (queue : String) (now : Instant) : Bool :=
  row.queue == queue && decide (row.dequeueAfter ≤ now)

/-- Whether the cells of a job at some positions equal given values. -/
def agrees (job : List Cell) (values : List (Nat × Cell)) : Bool :=
  values.all fun (position, value) ↦
    match job[position]? with
    | some cell => cell.equals value
    | none => false

def claimed (store : Store) (session : Nat) (queue : String) (notBefore now : Instant) :
    Option Entry :=
  earliest ((store.takable session now).filter fun entry ↦
    isEligible entry.row queue now && decide (notBefore ≤ entry.row.dequeueAfter))

/-- The entries that a removal of duplicates takes. -/
def duplicates (store : Store) (session : Nat) (queue : String) (values : List (Nat × Cell))
    (includePostponed : Bool) (now : Instant) : List Entry :=
  (store.takable session now).filter fun entry ↦
    entry.row.queue == queue && agrees entry.row.job values &&
      (includePostponed || decide (entry.row.dequeueAfter ≤ now))

/-! ## Statements -/

/-- The refusal of a command that does not fit the state of the transaction. -/
def unexpected : DatabaseError := .refused "unexpected command"

/-- The refusal of a statement in a failed transaction. -/
def aborted : DatabaseError :=
  .refused "current transaction is aborted, commands ignored until end of transaction block"

/-- Carries out a command in a state of the transaction that admits it. -/
def executeCommand (store : Store) (session : Nat) (command : Command) :
    Store × Except DatabaseError Unit :=
  match command, store.transaction session with
  | .begin, .idle => (store.setTransaction session (.active Changes.none none), .ok ())
  | .begin, _ => (store, .ok ())
  | .commit, .active changes _ =>
    ((store.apply changes).setTransaction session .idle, .ok ())
  | .commit, _ | .rollback, _ => (store.setTransaction session .idle, .ok ())
  | .setSavepoint, .active changes _ =>
    (store.setTransaction session (.active changes (some changes)), .ok ())
  | .releaseSavepoint, .active changes (some _) =>
    (store.setTransaction session (.active changes none), .ok ())
  | .rollbackToSavepoint, .active _ (some saved)
  | .rollbackToSavepoint, .failed _ (some saved) =>
    (store.setTransaction session (.active saved (some saved)), .ok ())
  | _, _ => (store, .error unexpected)

def delete (store : Store) (session : Nat) (entries : List Entry) : Store :=
  let own := (store.transaction session).changes
  store.setChanges session
    { own with deleted := own.deleted ++ entries.map Entry.number }

def insert (store : Store) (session : Nat) (row : Row) (now : Instant) : Store :=
  let own := (store.transaction session).changes
  { store.setChanges session
      { own with inserted := own.inserted ++ [⟨store.next, now, row⟩] } with
    next := store.next + 1 }

def execute (store : Store) (session : Nat) (now : Instant) :
    (statement : Statement) → Store × Except DatabaseError statement.Reply
  | .command command => store.executeCommand session command
  | .oldest queue =>
    let eligible := (store.visible session now).filter fun entry ↦ isEligible entry.row queue now
    (store, .ok ((earliest eligible).map (·.row.dequeueAfter)))
  | .recent => (store, .ok (now.before (Span.ofMillis 500)))
  | .claim queue notBefore =>
    match store.claimed session queue notBefore now with
    | some entry => (store.delete session [entry], .ok (some entry.row))
    | none => (store, .ok none)
  | .takeDuplicates queue values includePostponed =>
    let entries := store.duplicates session queue values includePostponed now
    (store.delete session entries, .ok (entries.map Entry.row))
  | .putBack queue queued dequeueAfter tries job =>
    (store.insert session ⟨queue, some queued, dequeueAfter, some tries, job⟩ now, .ok 1)
  | .putOff queue queued delayMillis tries job =>
    let dequeueAfter := now.after (Span.ofMillis delayMillis)
    (store.insert session ⟨queue, some queued, dequeueAfter, some tries, job⟩ now, .ok 1)
  | .archive queue queued diagnosis job =>
    let own := (store.transaction session).changes
    let row : ArchivedRow := ⟨queue, queued, now, diagnosis, job⟩
    ({ store.setChanges session
        { own with archived := own.archived ++ [(store.next, row)] } with
      next := store.next + 1 }, .ok 1)
  | .note text =>
    let own := (store.transaction session).changes
    ({ store.setChanges session { own with noted := own.noted ++ [(store.next, text)] } with
      next := store.next + 1 }, .ok 1)

/-- Whether a failed transaction still admits a statement. -/
def isAdmittedAfterFailure : Statement → Bool
  | .command .rollback | .command .commit | .command .rollbackToSavepoint => true
  | _ => false

def hasFailed (store : Store) (session : Nat) : Bool :=
  match store.transaction session with
  | .failed .. => true
  | _ => false

/-- Carries out a statement, unless the transaction has failed. -/
def perform (store : Store) (session : Nat) (now : Instant) (statement : Statement) :
    Store × Except DatabaseError statement.Reply :=
  if store.hasFailed session && !isAdmittedAfterFailure statement then (store, .error aborted)
  else store.execute session now statement

/-- Refuses a statement. A refusal inside a transaction makes it fail, but a refused commit ends
it. -/
def refuse (store : Store) (session : Nat) (statement : Statement) : Store :=
  match statement, store.transaction session with
  | .command .commit, .active .. | .command .commit, .failed .. =>
    store.setTransaction session .idle
  | _, .active changes savepoint => store.setTransaction session (.failed changes savepoint)
  | _, _ => store

/-- Ends a session; its open transaction is rolled back. -/
def endSession (store : Store) (session : Nat) : Store :=
  store.setTransaction session .idle

/-! ## Everything there is -/

/-- The queue rows with those of open transactions. -/
def allEntries (store : Store) : List Entry :=
  store.transactions.foldl (fun table (_, transaction) ↦
    placeAll Entry.number transaction.changes.inserted table) store.queue

/-- The archived rows with those of open transactions. -/
def allArchived (store : Store) : List (Nat × ArchivedRow) :=
  store.transactions.foldl (fun table (_, transaction) ↦
    placeAll Prod.fst transaction.changes.archived table) store.archive

/-- The handler's writes with those of open transactions. -/
def allNotes (store : Store) : List (Nat × String) :=
  store.transactions.foldl (fun table (_, transaction) ↦
    placeAll Prod.fst transaction.changes.noted table) store.notes

end Store

end TableQueue
