import TableQueue.Text.Blank
import TableQueue.Time.Notation

/-!
# Job failures

A handler that does not accept a job says why. A fatal failure archives the job, a retryable failure
puts it back at once, and a postponement puts it back for later. The cause is a chain of messages
from the outermost context to the root; the diagnosis kept with an archived job is drawn from it.
-/

namespace TableQueue

/-- The longest postponement that is written to the queue: 365 days. -/
def longestPostponement : Span := Span.ofSeconds (365 * 24 * 60 * 60)

/-- Why a handler did not accept a job. The cause may be absent. -/
inductive JobFailure where
  | fatal (cause : List String) (throttled : Bool)
  | retryable (cause : List String)
  | postponed (cause : List String) (delay : Span)
deriving DecidableEq, Repr

namespace JobFailure

def cause : JobFailure → List String
  | fatal cause _ | retryable cause | postponed cause _ => cause

/-- The name under which a failure without a cause is diagnosed. -/
def kindName : JobFailure → String
  | fatal .. => "Fatal"
  | retryable .. => "NonFatal"
  | postponed .. => "PostponedNonFatal"

def throttles : JobFailure → Bool
  | fatal _ throttled => throttled
  | retryable _ | postponed .. => true

def diagnosisLength : Nat := 3

/-- Whether a message adds something to the messages collected so far. -/
def isNews (collected : List String) (message : String) : Bool :=
  !message.isEmpty && !collected.contains message

/-- Adds the trimmed messages of a chain that are news until the diagnosis is full. -/
def collect (collected : List String) : List String → List String
  | [] => collected
  | message :: rest =>
    let message := Text.trimmed message
    if diagnosisLength ≤ collected.length then collected
    else if isNews collected message then collect (collected ++ [message]) rest
    else collect collected rest

/-- The text that is kept with an archived job. -/
def diagnosis (failure : JobFailure) : String :=
  match collect [] failure.cause with
  | [] => "Anonymous " ++ failure.kindName
  | messages => " / ".intercalate messages

/-- The outermost message, or a stand-in for an anonymous failure. -/
def headline (failure : JobFailure) : String :=
  failure.cause.headD "<anonymous>"

def message : JobFailure → String
  | failure@(fatal ..) => "fatal queue error: " ++ failure.headline
  | failure@(retryable ..) => "non-fatal queue error: " ++ failure.headline
  | failure@(postponed _ delay) =>
    "postponed queue error (" ++ delay.shortText ++ "): " ++ failure.headline

end JobFailure

end TableQueue
