import TableQueue.Database.Url.Basic

/-!
# Paths

The path of a location is a list of segments. A segment of one dot stands for nothing and one of two
dots takes the segment before it away, where a dot may be percent-encoded. A segment that begins
with a drive letter is never taken away.
-/

namespace TableQueue.Url.Path

/-- The number of dots that a segment consists of, where a dot may be percent-encoded. -/
def dotCount? : List Char → Option Nat
  | [] => some 0
  | '.' :: rest | '%' :: '2' :: 'e' :: rest | '%' :: '2' :: 'E' :: rest =>
    (dotCount? rest).map (· + 1)
  | _ => none

/-- Whether a segment begins with a drive letter: a letter and a colon or a bar, and a backslash if
anything follows. -/
def startsWithDrive : List Char → Bool
  | letter :: mark :: rest =>
    letter.isAlpha && (mark == ':' || mark == '|') && (rest.isEmpty || rest.head? == some '\\')
  | _ => false

def isDrive (segment : List Char) : Bool :=
  segment.length == 2 && startsWithDrive segment

def withColon (segment : List Char) : List Char :=
  if isDrive segment then segment.take 1 ++ [':'] else segment

/-- Takes the last segment away; `passed` holds the segments so far, latest first. -/
def leave (passed : List (List Char)) : List (List Char) :=
  match passed with
  | [] => []
  | segment :: rest => if startsWithDrive segment then passed else rest

/-- Enters a segment. The path of a file may begin with a drive, written with a colon. -/
def enter (kind : Kind) (passed : List (List Char)) (segment : List Char) : List (List Char) :=
  (if kind = .file ∧ passed = [] then withColon segment else segment) :: passed

/-- Passes a segment that is followed by another. -/
def pass (kind : Kind) (passed : List (List Char)) (segment : List Char) : List (List Char) :=
  match dotCount? segment with
  | some 1 => passed
  | some 2 => leave passed
  | _ => enter kind passed segment

def isDots (segment : List Char) : Bool :=
  dotCount? segment == some 1 || dotCount? segment == some 2

/-- Resolves the segments of dots. A path that ends in one ends in an empty segment. -/
def resolve (kind : Kind) (segments : List (List Char)) : List (List Char) :=
  let passed := segments.foldl (pass kind) []
  (if segments.getLast?.any isDots then [] :: passed else passed).reverse

def segments (kind : Kind) (path : List Char) : List (List Char) :=
  let inner := match path with
    | c :: rest => if kind.isSeparator c then rest else path
    | [] => []
  inner.splitOnP kind.isSeparator

def text (segments : List (List Char)) : List Char :=
  "/".toList.intercalate segments

/-- Reads a path after an authority or at a root. -/
def read (kind : Kind) (path : List Char) : List (List Char) :=
  resolve kind (segments kind path)

def namesDrive (segments : List (List Char)) : Bool :=
  segments.head?.any isDrive

end TableQueue.Url.Path
