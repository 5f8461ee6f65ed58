import TableQueue.Database.Url.Percent

/-!
# Numeric hosts

A host may be a number: eight groups of hexadecimal digits between colons, of which one run of zeros
may be left out and the last two may be written as four decimal bytes between points, or one to four
numbers between points. The first form is written back in its shortest spelling.
-/

namespace TableQueue.Url

/-! ## Sixteen bytes -/

def readGroup (text : List Char) : Option Nat :=
  if text.isEmpty || 4 < text.length then none
  else text.foldl (fun value c ↦ do pure (16 * (← value) + (← hexValue? c))) (some 0)

/-- Reads four decimal bytes between points as two groups. -/
def readDotted (text : List Char) : Option (List Nat) :=
  let bytes := (text.splitOnP (· == '.')).map fun part ↦
    if part.length = 0 || 3 < part.length || (1 < part.length && part.head? = some '0') then none
    else (Text.natural? part).filter (· ≤ 255)
  match bytes with
  | [some a, some b, some c, some d] => some [256 * a + b, 256 * c + d]
  | _ => none

def readGroups (text : List Char) : Option (List Nat) :=
  if text.isEmpty then some [] else (text.splitOnP (· == ':')).mapM readGroup

/-- Reads groups at the end of a host, where the last two may be in dotted form. -/
def readLastGroups (text : List Char) : Option (List Nat) :=
  let parts := text.splitOnP (· == ':')
  let last := parts.getLastD []
  if last.contains '.' then do pure ((← parts.dropLast.mapM readGroup) ++ (← readDotted last))
  else readGroups text

/-- Splits a text at the first double colon. -/
def cutDoubleColon (before : List Char) : List Char → Option (List Char × List Char)
  | ':' :: ':' :: rest => some (before.reverse, rest)
  | c :: rest => cutDoubleColon (c :: before) rest
  | [] => none

/-- Reads the eight groups of a numeric host. A double colon stands for at least one group. -/
def readIpv6 (text : List Char) : Option (List Nat) :=
  match cutDoubleColon [] text with
  | none => (readLastGroups text).filter (·.length == 8)
  | some (left, right) => do
    let left ← readGroups left
    let right ← readLastGroups right
    let missing := 8 - (left.length + right.length)
    if missing = 0 then none else some (left ++ List.replicate missing 0 ++ right)

/-- A numeric host that can be read has eight groups. -/
theorem length_of_readIpv6 {text : List Char} {groups : List Nat}
    (h : readIpv6 text = some groups) : groups.length = 8 := by
  unfold readIpv6 at h
  split at h
  · simpa using (Option.filter_eq_some_iff.1 h).2
  · obtain ⟨left, _, h⟩ := Option.bind_eq_some_iff.1 h
    obtain ⟨right, _, h⟩ := Option.bind_eq_some_iff.1 h
    dsimp only at h
    split at h
    · simp at h
    · simp only [Option.some.injEq] at h
      subst h
      simp only [List.length_append, List.length_replicate]
      omega

def longestZeros (groups : List Nat) : Nat × Nat :=
  let runs := (List.range groups.length).map fun i ↦
    (i, ((groups.drop i).takeWhile (· == 0)).length)
  runs.foldl (fun best run ↦ if best.2 < run.2 then run else best) (0, 0)

/-- A numeric host in its shortest form, in brackets. -/
def ipv6Text (groups : List Nat) : List Char :=
  let written (part : List Nat) : List Char :=
    ":".toList.intercalate (part.map (Nat.toDigits 16))
  let (start, length) := longestZeros groups
  let inside :=
    if 2 ≤ length then
      written (groups.take start) ++ [':', ':'] ++ written (groups.drop (start + length))
    else written groups
  '[' :: inside ++ [']']

/-! ## Four bytes -/

/-- Reads a number in base ten, after a zero in base eight, and after `0x` in base sixteen. Digits
of the base alone are admitted, and none means zero after a mark of the base. -/
def readNumeral (text : List Char) : Option Nat :=
  let (base, digits) : Nat × List Char := match text with
    | '0' :: 'x' :: rest | '0' :: 'X' :: rest => (16, rest)
    | '0' :: c :: rest => (8, c :: rest)
    | _ => (10, text)
  if text.isEmpty then none
  else digits.foldl (fun value c ↦ do
    let digit ← (hexValue? c).filter (· < base)
    pure (base * (← value) + digit)) (some 0)

/-- Reads numbers between points as four bytes. The last number fills the bytes that remain. -/
def readIpv4 (labels : List (List Char)) : Option Nat := do
  let labels := if labels.getLast? = some [] then labels.dropLast else labels
  let numbers ← labels.mapM readNumeral
  let front := numbers.dropLast
  let last ← numbers.getLast?
  if 4 < numbers.length || front.any (255 < ·) || Nat.pow 256 (4 - front.length) ≤ last then none
  else some (front.zipIdx.foldl (fun sum (byte, place) ↦ sum + byte * Nat.pow 256 (3 - place)) last)

/-- Whether the last label is a number, so that the whole has to be one. -/
def endsInNumber (labels : List (List Char)) : Bool :=
  let labels := if labels.getLast? = some [] then labels.dropLast else labels
  match labels.getLast? with
  | some last => (!last.isEmpty && last.all Text.isDigit) || (readNumeral last).isSome
  | none => false

def ipv4Text (number : Nat) : List Char :=
  ".".toList.intercalate ([3, 2, 1, 0].map fun place ↦
    Nat.toDigits 10 (number / Nat.pow 256 place % 256))

end TableQueue.Url
