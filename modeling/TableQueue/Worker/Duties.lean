import TableQueue.Assembly
import TableQueue.Database.Row

/-!
# What a worker is given

A worker knows nothing about the content of jobs. It is given the settings, a codec that turns job
cells into a payload and back, and, where duplicates are to be removed, the columns that make two
jobs duplicates and a way to merge them. What the workers of a crew have in common besides is kept
apart, because every worker changes it.
-/

namespace TableQueue

/-- Reads and writes the payload of a job. -/
structure Codec (α : Type) where
  decode : List Cell → Except DatabaseError α
  encode : α → List Cell

/-- How duplicates of a job are found and merged. -/
structure Deduplicator (α : Type) where
  /-- The positions of the job columns in which duplicates agree. -/
  positions : List Nat
  /-- The cells of a payload at these positions. -/
  values : α → List Cell
  /-- Merges a duplicate into a job; an error is the text of a panic. -/
  merge : α → α → Except String α

namespace Deduplicator

variable {α : Type}

/-- The cells that a duplicate of a payload has to hold, each with its position. -/
def key (deduplicator : Deduplicator α) (payload : α) : List (Nat × Cell) :=
  deduplicator.positions.zip (deduplicator.values payload)

end Deduplicator

/-- What the worker of a crew has to go by. -/
structure Duties (α : Type) where
  settings : Settings
  codec : Codec α
  deduplicator : Option (Deduplicator α)

structure Job (α : Type) where
  details : JobMeta
  payload : α
deriving Repr

/-- What the workers of a crew share and change. -/
structure Shared where
  connectThrottle : Throttle
  failureThrottle : Throttle
  breaker : Breaker
  health : Health
deriving Repr

namespace Shared

def ofPlan (plan : Assembly.Plan) : Shared :=
  ⟨plan.connectThrottle, plan.failureThrottle, plan.breaker, plan.health⟩

end Shared

end TableQueue
