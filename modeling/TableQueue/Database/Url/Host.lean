import TableQueue.Database.Url.Basic
import TableQueue.Database.Url.Numeric
import TableQueue.Database.Url.Punycode
import TableQueue.Text.Lowercase
import TableQueue.Text.Printable

/-!
# Hosts

A host in brackets is a number. Any other host of a plain scheme stands for itself, with controls
and characters beyond ASCII encoded. For the other schemes it is a domain: percent-encoded bytes are
read, letters are lowered, variants of a character are replaced by it, labels beyond ASCII are
written in ASCII, and a domain whose last label is a number is a number altogether.
-/

namespace TableQueue.Url

/-! ## Plain hosts -/

def isForbiddenInHost (c : Char) : Bool :=
  [' ', '#', '/', ':', '<', '>', '?', '@', '[', '\\', ']', '^', '|'].contains c || c.toNat = 0

/-- Reads a host in brackets, after the first of them. -/
def readBracketed (text : List Char) : Except Problem (List Char) :=
  if text.getLast? = some ']' then
    match readIpv6 text.dropLast with
    | some groups => .ok (ipv6Text groups)
    | none => .error .invalidIpv6
  else .error .invalidIpv6

def readPlainHost (text : List Char) : Except Problem (List Char) :=
  match text with
  | '[' :: rest => readBracketed rest
  | _ =>
    if text.any isForbiddenInHost then .error .invalidHostCharacter
    else .ok (encodeControls text)

/-! ## Domains -/

/-- Ranges of characters that leave no trace in a domain: joiners, selectors and soft hyphens. -/
def ignoredRanges : List (Nat × Nat) := [
  (0xad, 0xad), (0x34f, 0x34f), (0x180b, 0x180d), (0x180f, 0x180f), (0x200b, 0x200b),
  (0x2060, 0x2060), (0x2064, 0x2064), (0xfe00, 0xfe0f), (0xfeff, 0xfeff), (0xe0100, 0xe01ef)]

/-- The characters beyond ASCII that separate labels as a point does. -/
def isForeignPoint (c : Char) : Bool :=
  c.toNat == 0x3002 || c.toNat == 0xff61

/-- What a character becomes in a domain. -/
def domainCharacters (c : Char) : List Char :=
  if Text.inRanges ignoredRanges c.toNat then []
  else if isForeignPoint c then ['.']
  else if c.toNat = 0x130 then ['i', Char.ofNat 0x307]
  else if 0xff01 ≤ c.toNat && c.toNat ≤ 0xff5e then
    [Text.lowerChar (Char.ofNat (c.toNat - 0xfee0))]
  else [Text.lowerChar c]

def isForbiddenInDomain (c : Char) : Bool :=
  Text.isSilent c || c == '%' || isForbiddenInHost c

/-- Whether characters beyond ASCII may make up a label. -/
def isForeignLabel (label : List Char) : Bool :=
  label.any (0x80 ≤ ·.toNat) && !label.head?.any Text.isExtending &&
    label.all fun c ↦ !isForbiddenInDomain c && domainCharacters c == [c]

/-- The mark in front of a foreign label that is written in ASCII. -/
def foreignMark : List Char := "xn--".toList

/-- Writes a label in ASCII. A label that says it is so written has to be readable. -/
def asciiLabel (label : List Char) : Except Problem (List Char) :=
  if foreignMark.isPrefixOf label then
    if (Punycode.decode? (label.drop foreignMark.length)).any isForeignLabel then .ok label
    else .error .invalidDomain
  else if label.all (·.toNat < 0x80) then .ok label
  else if isForeignLabel label then .ok (foreignMark ++ Punycode.encode label)
  else .error .invalidDomain

def readDomain (text : List Char) : Except Problem (List Char) := do
  let characters ← (decodeStrict text).mapError fun _ ↦ Problem.invalidDomain
  let domain := characters.flatMap domainCharacters
  if domain.any isForbiddenInDomain then throw .invalidDomain
  let labels ← (domain.splitOnP (· == '.')).mapM asciiLabel
  if domain.isEmpty then throw .emptyHost
  if endsInNumber labels then
    match readIpv4 labels with
    | some number => pure (ipv4Text number)
    | none => throw .invalidIpv4
  else pure (".".toList.intercalate labels)

def readHost (kind : Kind) (text : List Char) : Except Problem (List Char) :=
  match kind, text with
  | .plain, _ => readPlainHost text
  | _, '[' :: rest => readBracketed rest
  | _, _ => readDomain text

end TableQueue.Url
