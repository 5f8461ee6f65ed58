import TableQueue.Text.CaseTable

/-!
# Lowercase

Texts are lowered character by character with the Unicode mappings. Two rules go beyond a table of
single characters: the dotted capital I becomes an i with a combining dot, and a capital sigma at
the end of a word becomes the final small sigma.
-/

namespace TableQueue.Text

/-- The distance to the lowercase form, zero where there is none. -/
def lowercaseOffset (codePoint : Nat) : Int :=
  match lowercaseRuns.find? fun (first, last, step, _) ↦
      first ≤ codePoint && codePoint ≤ last && (codePoint - first) % step == 0 with
  | some (_, _, _, offset) => offset
  | none => 0

def lowerChar (c : Char) : Char :=
  if c.toNat < 0x80 then c.toLower
  else Char.ofNat (c.toNat + lowercaseOffset c.toNat).toNat

def isCased (c : Char) : Bool :=
  inRanges casedRanges c.toNat

/-- Whether the nearest character that is not passed over has a case. -/
def meetsCased (neighbours : List Char) : Bool :=
  match neighbours.dropWhile fun c ↦ inRanges caseIgnorableRanges c.toNat with
  | [] => false
  | c :: _ => isCased c

/-- Lowers a text; `before` holds the characters already passed, nearest first. -/
def lowerFrom (before : List Char) : List Char → List Char
  | [] => []
  | c :: rest =>
    let lowered :=
      if c.toNat = 0x130 then ['i', Char.ofNat 0x307]
      else if c.toNat = 0x3a3 then
        [if meetsCased before && !meetsCased rest then Char.ofNat 0x3c2 else Char.ofNat 0x3c3]
      else [lowerChar c]
    lowered ++ lowerFrom (c :: before) rest

def lowercase (text : List Char) : List Char :=
  lowerFrom [] text

end TableQueue.Text
