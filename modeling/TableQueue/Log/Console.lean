import TableQueue.Log.Basic
import TableQueue.Text.Digits

/-!
# Console logging

The environment decides how events appear on the console: the kind of deployment sets a level, a
filter may override it, and lines are plain texts or JSON objects. A filter is a list of directives;
each names a level, a target, or a target with a level, and the directive with the longest target
that matches an event decides.
-/

namespace TableQueue.Log

/-- The target of events emitted by the logging set-up and by job outcomes. -/
def loggingTarget : String := "pgqueue_consumer::logging"

/-- Which events of a target are shown; no level hides all. -/
structure Directive where
  target : String
  level : Option Level
deriving DecidableEq, Repr

namespace Directive

/-- The spellings of levels in directives. -/
def levelNames : List (String × Option Level) :=
  [("trace", some .trace), ("debug", some .debug), ("info", some .info), ("warn", some .warn),
    ("error", some .error), ("off", none), ("0", none), ("1", some .error), ("2", some .warn),
    ("3", some .info), ("4", some .debug), ("5", some .trace)]

def readLevel (text : List Char) : Option (Option Level) :=
  levelNames.lookup (String.ofList (text.map Char.toLower))

def isTargetCharacter (c : Char) : Bool :=
  c.isAlphanum || c == '_' || c == ':' || c == '-' || 0x80 ≤ c.toNat

def read (text : List Char) : Option Directive :=
  match readLevel text with
  | some level => some ⟨"", level⟩
  | none =>
    let target := text.takeWhile isTargetCharacter
    if target.isEmpty then none
    else match text.dropWhile isTargetCharacter with
      | [] | ['='] => some ⟨String.ofList target, some .trace⟩
      | '=' :: level => (readLevel level).map (⟨String.ofList target, ·⟩)
      | _ => none

/-- Reads a list of directives; an empty list hides everything. -/
def readAll (text : List Char) : Option (List Directive) :=
  ((text.splitOnP (· == ',')).filter fun piece ↦ !piece.isEmpty).mapM read

def levelFor (directives : List Directive) (target : String) : Option Level :=
  let applicable := directives.filter fun directive ↦ target.startsWith directive.target
  let best := applicable.foldl (fun best directive ↦
    match best with
    | none => some directive
    | some other =>
      if other.target.length ≤ directive.target.length then some directive else some other) none
  best.bind (·.level)

end Directive

/-- How a console shows events. -/
structure Console where
  /-- The kind of deployment. -/
  environment : String
  json : Bool
  directives : List Directive
deriving Repr

namespace Console

def defaultLevel (environment : String) : Level :=
  if environment = "production" then .info else .debug

def deployment (pairs : List (String × String)) : String :=
  ((pairs.lookup "PGQUEUE_ENV").orElse fun _ ↦ pairs.lookup "APP_ENV").getD "development"

def asksForJson (pairs : List (String × String)) : Bool :=
  match pairs.lookup "PGQUEUE_LOG_FORMAT" with
  | some format => format.toList.map Char.toLower == "json".toList
  | none => false

/-- The console of an environment. A filter that cannot be read is ignored. -/
def ofEnvironment (pairs : List (String × String)) : Console :=
  let environment := deployment pairs
  let filter := (pairs.lookup "RUST_LOG").bind fun text ↦ Directive.readAll text.toList
  ⟨environment, asksForJson pairs,
    filter.getD [⟨"", some (defaultLevel environment)⟩]⟩

def shows (console : Console) (target : String) (event : Event) : Bool :=
  match Directive.levelFor console.directives target with
  | some level => decide (level.rank ≤ event.level.rank)
  | none => false

def initialized (console : Console) : Event where
  level := .info
  message := "🔧 STRUCTURED LOGGING: Initialized"
  fields := [("environment", .shown console.environment), ("json", .truth console.json)]

end Console

end TableQueue.Log
