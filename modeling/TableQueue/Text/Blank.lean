/-!
# Blank characters

Blank means the white space of the Unicode character database: the ASCII blanks with the vertical
tab and form feed, the next-line control, the no-break spaces, the typographic spaces and the two
separators. Texts are trimmed and cut into words by this property.
-/

namespace TableQueue.Text

/-- The characters with the Unicode property White_Space. -/
def isBlank (c : Char) : Bool :=
  let n := c.toNat
  (0x09 ≤ n && n ≤ 0x0d) || n == 0x20 || n == 0x85 || n == 0xa0 || n == 0x1680 ||
    (0x2000 ≤ n && n ≤ 0x200a) || n == 0x2028 || n == 0x2029 || n == 0x202f || n == 0x205f ||
    n == 0x3000

/-- The blanks of the language are blanks. -/
theorem isBlank_of_isWhitespace {c : Char} (h : c.isWhitespace = true) : isBlank c = true := by
  simp only [Char.isWhitespace, Bool.or_eq_true, decide_eq_true_eq] at h
  rcases h with ((h | h) | h) | h <;> subst h <;> rfl

def trimStart (text : List Char) : List Char :=
  text.dropWhile isBlank

def trimEnd (text : List Char) : List Char :=
  (trimStart text.reverse).reverse

/-- Removes the blanks on both sides and keeps those inside. -/
def trim (text : List Char) : List Char :=
  trimEnd (trimStart text)

def trimmed (text : String) : String :=
  String.ofList (trim text.toList)

/-- The nonempty pieces between separators, in order. -/
def pieces (isSeparator : Char → Bool) (text : List Char) : List (List Char) :=
  (text.splitOnP isSeparator).filter fun piece ↦ !piece.isEmpty

/-- No piece is empty. -/
theorem ne_nil_of_mem_pieces {isSeparator : Char → Bool} {text piece : List Char}
    (h : piece ∈ pieces isSeparator text) : piece ≠ [] := by
  have := (List.mem_filter.1 h).2
  simpa using this

end TableQueue.Text
