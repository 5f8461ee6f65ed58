import TableQueue.Fault
import TableQueue.Text.Blank
import TableQueue.Text.Digits
import TableQueue.Time.Basic

/-!
# Throttle rules

A rule `N/[P]unit[!]` admits at most `N` failures in a window of `P` units. A success clears the
memory of a rule unless the rule ends in an exclamation mark. A rule set is a list of rules between
commas and blanks. This module holds the rules as data and their reader.
-/

namespace TableQueue.Throttle

/-- How many failures a window admits, and whether a success clears them. -/
structure Rule where
  /-- The number of failures that a window admits, at least one. -/
  maxEvents : Nat
  /-- The length of the window in milliseconds. -/
  windowMillis : Nat
  /-- Whether a success clears the failures remembered so far. -/
  resetsOnSuccess : Bool
deriving DecidableEq, Repr

inductive TimeUnit where
  | millisecond
  | second
  | minute
  | hour
deriving DecidableEq, Repr

namespace TimeUnit

def millis : TimeUnit → Nat
  | millisecond => 1
  | second => 1000
  | minute => 60000
  | hour => 3600000

def symbol : TimeUnit → List Char
  | millisecond => ['m', 's']
  | second => ['s']
  | minute => ['m']
  | hour => ['h']

def ofSymbol? (text : List Char) : Option TimeUnit :=
  [millisecond, second, minute, hour].find? fun unit ↦ unit.symbol == text

/-- The spelling of a unit is read as that unit. -/
theorem ofSymbol?_symbol (unit : TimeUnit) : ofSymbol? unit.symbol = some unit := by
  cases unit <;> rfl

end TimeUnit

/-- Why a text is not a rule. -/
inductive Refusal where
  | missingSlash
  | invalidEventCount
  | missingUnit
  | invalidPeriodCount
  | unknownUnit (text : List Char)
  | windowTooLarge
deriving DecidableEq, Repr

def Refusal.message : Refusal → String
  | missingSlash => "missing '/'"
  | invalidEventCount => "invalid event count"
  | missingUnit => "missing time unit"
  | invalidPeriodCount => "invalid period count"
  | unknownUnit text => "unknown time unit " ++ Text.quoted (String.ofList text)
  | windowTooLarge => "window too large"

namespace Rule

def cutSlash (text : List Char) : Option (List Char × List Char) :=
  match text.dropWhile (· != '/') with
  | [] => none
  | _ :: rest => some (text.takeWhile (· != '/'), rest)

/-- Takes off one exclamation mark at the end and says whether there was none. -/
def cutMark (text : List Char) : List Char × Bool :=
  if text.getLast? = some '!' then (text.dropLast, false) else (text, true)

/-- Reads the part after the slash without its mark: a period count and a unit. -/
def readWindow (text : List Char) : Except Refusal Nat := do
  let count := text.takeWhile Text.isDigit
  let symbol := text.dropWhile Text.isDigit
  if symbol.isEmpty then throw .missingUnit
  let periods ←
    if count.isEmpty then pure 1
    else match Text.positive? count with
      | some periods => pure periods
      | none => throw .invalidPeriodCount
  match TimeUnit.ofSymbol? symbol with
  | none => throw (.unknownUnit symbol)
  | some unit =>
    if periods * unit.millis ≤ Text.maxUnsigned64 then pure (periods * unit.millis)
    else throw .windowTooLarge

def read (text : List Char) : Except Refusal Rule := do
  let some (count, period) := cutSlash text | throw .missingSlash
  let some maxEvents := Text.positive? count | throw .invalidEventCount
  let (window, resetsOnSuccess) := cutMark period
  let windowMillis ← readWindow window
  pure ⟨maxEvents, windowMillis, resetsOnSuccess⟩

/-- Reads one rule and names it in the fault if it is none. -/
def parse (text : List Char) : Except Fault Rule :=
  match read text with
  | .ok rule => .ok rule
  | .error refusal => .error (.invalidThrottleRule (String.ofList text) refusal.message)

def isSeparator (c : Char) : Bool :=
  c == ',' || Text.isBlank c

/-- Reads a rule set and stops at the first piece that is no rule. -/
def parseSet (spec : List Char) : Except Fault (List Rule) :=
  (Text.pieces isSeparator spec).mapM parse

end Rule

end TableQueue.Throttle
