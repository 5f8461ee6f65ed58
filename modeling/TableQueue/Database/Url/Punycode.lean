/-!
# Foreign labels in ASCII

A domain label with characters beyond ASCII travels as its ASCII characters followed by a
description of the insertions that complete it. The insertions are made in the order of the code
points; each is given by its distance from the one before, counted over all code points and all
positions that lie between, and a distance is written in digits whose weights adapt to the distances
so far.
-/

namespace TableQueue.Url.Punycode

/-- The first code point that is inserted. -/
def firstPoint : Nat := 0x80

/-- The first estimate of the size of distances. -/
def firstBias : Nat := 72

/-- The digits: letters, and then decimal digits. -/
def digit (value : Nat) : Char :=
  if value < 26 then Char.ofNat ('a'.toNat + value) else Char.ofNat ('0'.toNat + (value - 26))

/-- The value of a digit in either case. -/
def digitValue? (c : Char) : Option Nat :=
  if 'a' ≤ c && c ≤ 'z' then some (c.toNat - 'a'.toNat)
  else if 'A' ≤ c && c ≤ 'Z' then some (c.toNat - 'A'.toNat)
  else if '0' ≤ c && c ≤ '9' then some (c.toNat - '0'.toNat + 26)
  else none

/-- A digit below the threshold of its position is the last one of its number. -/
def threshold (position bias : Nat) : Nat :=
  min 26 (max 1 (36 * position - bias))

theorem one_le_threshold (position bias : Nat) : 1 ≤ threshold position bias := by
  simp only [threshold]
  omega

/-- Divides a distance until it is small, and counts the divisions. -/
def scaled (distance : Nat) : Nat × Nat :=
  if 455 < distance then
    let (divisions, rest) := scaled (distance / 35)
    (divisions + 1, rest)
  else (0, distance)
termination_by distance

/-- The estimate after a distance; `size` is the length of the label after the insertion. -/
def adapted (distance size : Nat) (isFirst : Bool) : Nat :=
  let share := if isFirst then distance / 700 else distance / 2
  let (divisions, rest) := scaled (share + share / size)
  36 * divisions + 36 * rest / (rest + 38)

/-! ## Writing -/

def digits (bias position distance : Nat) : List Char :=
  let least := threshold position bias
  if distance < least then [digit distance]
  else
    digit (least + (distance - least) % (36 - least)) ::
      digits bias (position + 1) ((distance - least) / (36 - least))
termination_by distance
decreasing_by
  have := one_le_threshold position bias
  exact Nat.lt_of_le_of_lt (Nat.div_le_self _ _) (by omega)

/-- An insertion into a label: a code point and the position at which it is inserted. -/
structure Insertion where
  point : Nat
  position : Nat
deriving DecidableEq, Repr

/-- The insertions that complete a label, in the order in which they are made. -/
def insertions (label : List Char) : List Insertion :=
  let foreign := label.zipIdx.filter fun (c, _) ↦ firstPoint ≤ c.toNat
  (foreign.mergeSort fun a b ↦ a.1.toNat ≤ b.1.toNat).map fun (c, index) ↦
    ⟨c.toNat, (label.take index).countP fun other ↦ other.toNat ≤ c.toNat⟩

/-- Where the next distance is counted from. -/
structure Cursor where
  /-- The least insertion that may come next. -/
  next : Insertion
  /-- The length of the label so far. -/
  size : Nat
  bias : Nat
  isFirst : Bool

def Cursor.start (size : Nat) : Cursor := ⟨⟨firstPoint, 0⟩, size, firstBias, true⟩

def Cursor.pass (cursor : Cursor) (insertion : Insertion) (distance : Nat) : Cursor where
  next := ⟨insertion.point, insertion.position + 1⟩
  size := cursor.size + 1
  bias := adapted distance (cursor.size + 1) cursor.isFirst
  isFirst := false

/-- Writes insertions as distances. -/
def writeInsertions (cursor : Cursor) : List Insertion → List Char
  | [] => []
  | insertion :: rest =>
    let distance := (insertion.point - cursor.next.point) * (cursor.size + 1) +
      insertion.position - cursor.next.position
    digits cursor.bias 1 distance ++ writeInsertions (cursor.pass insertion distance) rest

def encode (label : List Char) : List Char :=
  let basic := label.filter fun c ↦ c.toNat < firstPoint
  (if basic.isEmpty then [] else basic ++ ['-']) ++
    writeInsertions (Cursor.start basic.length) (insertions label)

/-! ## Reading -/

/-- Reads the digits of one distance and gives what follows them. -/
def readDistance (bias position weight value : Nat) : List Char → Option (Nat × List Char)
  | [] => none
  | c :: rest =>
    match digitValue? c with
    | none => none
    | some d =>
      let least := threshold position bias
      if d < least then some (value + d * weight, rest)
      else readDistance bias (position + 1) (weight * (36 - least)) (value + d * weight) rest

/-- Reading a distance takes at least one character, so the insertions come to an end. -/
theorem length_lt_of_readDistance {bias position weight value : Nat} {text : List Char}
    {result : Nat × List Char} (h : readDistance bias position weight value text = some result) :
    result.2.length < text.length := by
  induction text generalizing position weight value with
  | nil => simp [readDistance] at h
  | cons c rest ih =>
    simp only [readDistance] at h
    split at h
    · simp at h
    · split at h
      · simp only [Option.some.injEq] at h
        subst h
        simp
      · exact Nat.lt_succ_of_lt (ih h)

/-- Makes the insertions that a text describes. -/
def insertAll (cursor : Cursor) (label text : List Char) : Option (List Char) :=
  if text.isEmpty then some label
  else
    match _read : readDistance cursor.bias 1 1 0 text with
    | none => none
    | some (distance, rest) =>
      let places := cursor.size + 1
      let reached := cursor.next.position + distance
      let insertion : Insertion := ⟨cursor.next.point + reached / places, reached % places⟩
      if insertion.point.isValidChar then
        insertAll (cursor.pass insertion distance)
          (label.insertIdx insertion.position (Char.ofNat insertion.point)) rest
      else none
termination_by text.length
decreasing_by exact length_lt_of_readDistance _read

def decode? (text : List Char) : Option (List Char) :=
  let tail := (text.reverse.takeWhile (· != '-')).reverse
  let basic := (text.take (text.length - tail.length)).dropLast
  if basic.all (·.toNat < firstPoint) then insertAll (Cursor.start basic.length) basic tail
  else none

end TableQueue.Url.Punycode
