import TableQueue.Job.Meta
import TableQueue.Text.Quoted

/-!
# Log events

An event has a level, a message and named fields. A text field is either shown as it is or taken as
a literal, which a plain-text line quotes. The events that the rest of the library emits are built
here or where they arise; nothing in this module decides whether an event is shown.
-/

namespace TableQueue

inductive Level where
  | trace
  | debug
  | info
  | warn
  | error
deriving DecidableEq, Repr

namespace Level

def rank : Level → Nat
  | trace => 0
  | debug => 1
  | info => 2
  | warn => 3
  | error => 4

def all : List Level := [trace, debug, info, warn, error]

def name : Level → String
  | trace => "TRACE"
  | debug => "DEBUG"
  | info => "INFO"
  | warn => "WARN"
  | error => "ERROR"

end Level

namespace Log

inductive FieldValue where
  /-- A text shown as it is. -/
  | shown (text : String)
  /-- A text that a plain line quotes. -/
  | literal (text : String)
  | number (n : Int)
  | truth (b : Bool)
deriving DecidableEq, Repr

/-- The value of a field in a plain line. -/
def FieldValue.line : FieldValue → String
  | shown text => text
  | literal text => Text.quoted text
  | number n => toString n
  | truth true => "true"
  | truth false => "false"

structure Event where
  level : Level
  message : String
  fields : List (String × FieldValue)
deriving DecidableEq, Repr

namespace Event

/-- The plain line of an event: the message and then each field. -/
def line (event : Event) : String :=
  event.message ++ String.join (event.fields.map fun field ↦
    " " ++ field.1 ++ "=" ++ field.2.line)

end Event

/-- The event that reports the outcome of a job. -/
def jobOperation (operation worker queue : String) (tries : Int) (status : String)
    (details : Option String) (now : Instant) : Event where
  level := .info
  message := "📋 JOB_OPERATION"
  fields :=
    [("operation", .shown operation), ("worker", .shown worker), ("consumer", .shown queue),
      ("tries", .number tries), ("status", .shown status)] ++
    (match details with
      | some text => [("details", .literal text)]
      | none => []) ++
    [("timestamp", .shown now.timestamp)]

end Log

end TableQueue
