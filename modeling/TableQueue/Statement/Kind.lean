/-!
# Kinds of prepared statements

A worker prepares each of its statements on first use, one for every purpose. A connection keeps the
set of purposes prepared on it, so that all of them can be dropped together.
-/

namespace TableQueue

/-- The purposes of a worker's prepared statements. -/
inductive StatementKind where
  /-- The oldest eligible row of a queue. -/
  | queueTimestamp
  /-- The lower bound for a queue without an eligible row. -/
  | currentTimestamp
  | claim
  | deleteDuplicate
  | retry
  | postpone
  | failed
deriving DecidableEq, Repr

namespace StatementKind

def all : List StatementKind :=
  [queueTimestamp, currentTimestamp, claim, deleteDuplicate, retry, postpone, failed]

def name : StatementKind → String
  | queueTimestamp => "queue timestamp"
  | currentTimestamp => "current timestamp"
  | claim => "claim"
  | deleteDuplicate => "delete duplicate"
  | retry => "retry"
  | postpone => "postpone"
  | failed => "failed"

def ofName? (name : String) : Option StatementKind :=
  all.find? (·.name == name)

end StatementKind

/-- The purposes prepared on a connection, without repetition and in the order of first use. -/
structure Prepared (α : Type) where
  purposes : List α
deriving Repr

namespace Prepared

variable {α : Type} [BEq α]

def empty : Prepared α := ⟨[]⟩

/-- Notes the use of a purpose; the answer says whether it is the first use. -/
def mark (prepared : Prepared α) (purpose : α) : Prepared α × Bool :=
  if prepared.purposes.contains purpose then (prepared, false)
  else (⟨prepared.purposes ++ [purpose]⟩, true)

def size (prepared : Prepared α) : Nat := prepared.purposes.length

def isEmpty (prepared : Prepared α) : Bool := prepared.purposes.isEmpty

/-- A sequence of uses: whether each is new, and what is prepared after it. -/
def markAll (prepared : Prepared α) : List α → List (Bool × Prepared α)
  | [] => []
  | purpose :: rest =>
    let (next, new) := prepared.mark purpose
    (new, next) :: next.markAll rest

end Prepared

end TableQueue
