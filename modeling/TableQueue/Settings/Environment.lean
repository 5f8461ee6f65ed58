import TableQueue.Fault
import TableQueue.Settings.Variable

/-!
# The settings environment

Settings are taken from the variables whose names start with a fixed word and an underscore, in any
case. What follows is the name of a setting. A point or an index in brackets after a name makes the
variable a part of a table or a sequence of that name; a name that is no such path stands as it is.
Reading fails when an index is one that no sequence can have.
-/

namespace TableQueue

/-- The variables that concern the settings, by the lowered name of the setting. -/
structure Environment where
  entries : List (String × Variable)
deriving Repr

namespace Environment

/-- The word in front of the variables. -/
def namePrefix : String := "PGQUEUE"

/-- The characters of a simple name in a path. -/
def isNameCharacter (c : Char) : Bool :=
  c.isAlphanum || c == '_' || c == '-' || c == ' '

/-- A link of a path: a point with a name, or an index in brackets. -/
inductive Link where
  | member (name : List Char)
  | index (n : Int)
deriving DecidableEq, Repr

def isIndexBlank (c : Char) : Bool :=
  c == ' ' || c == '\t'

/-- Reads an index: digits with an optional minus sign, within the signed 64-bit numbers. -/
def index? (text : List Char) : Option Int :=
  let bare := ((text.dropWhile isIndexBlank).reverse.dropWhile isIndexBlank).reverse
  if bare.head? = some '+' then none else Text.signed64? bare

/-- Reads the first link of a path and gives the rest of the path. -/
def link? : List Char → Option (Link × List Char)
  | '.' :: rest =>
    let name := rest.takeWhile isNameCharacter
    if name.isEmpty then none else some (.member name, rest.dropWhile isNameCharacter)
  | '[' :: rest =>
    match rest.dropWhile (· != ']') with
    | ']' :: after => (index? (rest.takeWhile (· != ']'))).map fun n ↦ (.index n, after)
    | _ => none
  | _ => none

/-- Reads a text that consists of links. The fuel is its length: every link takes a character. -/
def links? : Nat → List Char → Option (List Link)
  | _, [] => some []
  | 0, _ => none
  | fuel + 1, text =>
    (link? text).bind fun (link, rest) ↦ (links? fuel rest).map (link :: ·)

/-- The place that a variable has among the settings: the name of a setting and links below it. -/
structure Path where
  root : String
  links : List Link
deriving DecidableEq, Repr

namespace Path

/-- Reads a name as a path; one that is no path is a root without links. -/
def ofName (name : List Char) : Path :=
  let root := name.takeWhile isNameCharacter
  let below := name.dropWhile isNameCharacter
  match links? below.length below with
  | some links => if root.isEmpty then ⟨String.ofList name, []⟩ else ⟨String.ofList root, links⟩
  | none => ⟨String.ofList name, []⟩

def greatestIndex : Int := 4294967295

/-- Whether every index is one that a sequence can have. -/
def isPossible (path : Path) : Bool :=
  path.links.all fun
    | .member _ => true
    | .index n => 0 ≤ n && n ≤ greatestIndex

/-- What the setting at the root becomes when a text is put at the place. -/
def valueAtRoot (path : Path) (text : String) : Variable :=
  match path.links with
  | [] => Variable.ofText text
  | .member _ :: _ => .table
  | .index _ :: _ => .sequence

end Path

/-- The name of a setting in the name of a variable, if it has the prefix. -/
def settingName? (variableName : String) : Option (List Char) :=
  let lowered := Text.lowercase variableName.toList
  let start := Text.lowercase (namePrefix ++ "_").toList
  if start.isPrefixOf lowered then some (lowered.drop start.length) else none

/-- The place of a variable that concerns the settings, with its text. -/
def placed? (pair : String × String) : Option (Path × String) :=
  (settingName? pair.1).map fun name ↦ (Path.ofName name, pair.2)

def ofVariables (pairs : List (String × String)) : Except Fault Environment :=
  let placed := pairs.filterMap placed?
  match placed.find? fun (path, _) ↦ !path.isPossible with
  | some (path, _) => .error (.impossibleIndex path.root)
  | none => .ok ⟨placed.map fun (path, text) ↦ (path.root, path.valueAtRoot text)⟩

def find? (environment : Environment) (key : String) : Option Variable :=
  environment.entries.lookup key

/-- Converts the variable for a setting, if there is one. -/
def read {α : Type} (environment : Environment) (convert : Variable → Except Variable.Mismatch α)
    (key : String) : Except String (Option α) :=
  match environment.find? key with
  | none => .ok none
  | some value =>
    match convert value with
    | .ok a => .ok (some a)
    | .error mismatch => .error (mismatch.message key)

end Environment

end TableQueue
