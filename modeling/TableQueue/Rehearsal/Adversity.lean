import TableQueue.Database.Server

/-!
# Adversity

A rehearsal may slow down statements of some kinds and let mishaps hit some of them. A kind of
statement is named as the statement is; connecting counts as a kind of its own.
-/

namespace TableQueue.Rehearsal

/-- Which statements of a kind a mishap hits, counted from one. -/
inductive Occurrence where
  | nth (number : Nat)
  | onwards (number : Nat)
  | always
deriving DecidableEq, Repr

def Occurrence.hits : Occurrence → Nat → Bool
  | nth number, count => count == number
  | onwards number, count => decide (number ≤ count)
  | always, _ => true

/-- What a mishap does. -/
inductive Effect where
  | refuse
  | disconnect
  | miscount (rows : Nat)
deriving DecidableEq, Repr

/-- A mishap in waiting. -/
structure Plot where
  kind : String
  occurrence : Occurrence
  effect : Effect
  text : Option String
deriving DecidableEq, Repr

/-- The mishaps in waiting and the time that statements take. -/
structure Adversity where
  plots : List Plot
  /-- Milliseconds for each kind of statement that takes any. -/
  delays : List (String × Nat)
  /-- The number of statements after which the crew is stopped. -/
  limit : Nat

namespace Adversity

def connecting : String := "connect"

/-- The first plot that hits the statement of a kind with a number. -/
def plot? (adversity : Adversity) (kind : String) (number : Nat) : Option Plot :=
  adversity.plots.find? fun plot ↦ plot.kind == kind && plot.occurrence.hits number

def mishap (plot : Plot) : Mishap :=
  match plot.effect with
  | .refuse => .refusal (plot.text.getD "boom")
  | .disconnect => .disconnection
  | .miscount rows => .miscount rows

/-- The error of a connect that a plot hits. -/
def connectError (plot : Plot) : DatabaseError :=
  .configuration (plot.text.getD "refused")

def delay (adversity : Adversity) (kind : String) : Span :=
  Span.ofMillis ((adversity.delays.lookup kind).getD 0)

end Adversity

end TableQueue.Rehearsal
