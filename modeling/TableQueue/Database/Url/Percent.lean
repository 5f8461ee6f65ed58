import TableQueue.Text.Digits
import TableQueue.Text.Utf8

/-!
# Percent encoding

Inside a location a percent sign and two hexadecimal digits stand for a byte, and the bytes of a
part are UTF-8. Credentials and paths are read strictly, so that a malformed part is an error; the
entries of a query are read loosely.
-/

namespace TableQueue.Url

def hexValue? (c : Char) : Option Nat :=
  if Text.isDigit c then some (Text.digitValue c)
  else if 'a' ≤ c && c ≤ 'f' then some (c.toNat - 'a'.toNat + 10)
  else if 'A' ≤ c && c ≤ 'F' then some (c.toNat - 'A'.toNat + 10)
  else none

/-- The bytes of a text in which a percent sign and two digits stand for one byte. -/
def percentDecoded : List Char → List Nat
  | [] => []
  | '%' :: a :: b :: rest =>
    match hexValue? a, hexValue? b with
    | some high, some low => (16 * high + low) :: percentDecoded rest
    | _, _ => '%'.toNat :: percentDecoded (a :: b :: rest)
  | c :: rest => Text.Utf8.encode c ++ percentDecoded rest
termination_by text => text.length

def percentEncoded (byte : Nat) : List Char :=
  let digit (value : Nat) : Char := (Nat.digitChar value).toUpper
  ['%', digit (byte / 16), digit (byte % 16)]

/-- Replaces controls and characters outside ASCII by their bytes, each percent-encoded. -/
def encodeControls (text : List Char) : List Char :=
  text.flatMap fun c ↦
    if 0x20 ≤ c.toNat && c.toNat ≤ 0x7E then [c]
    else (Text.Utf8.encode c).flatMap percentEncoded

/-- Reads a percent-encoded text strictly. -/
def decodeStrict (text : List Char) : Except String (List Char) :=
  Text.Utf8.strict 0 (Text.Utf8.split (percentDecoded text))

/-- Reads one side of a query entry, where a plus sign is a space. -/
def decodeForm (text : List Char) : List Char :=
  Text.Utf8.loose (Text.Utf8.split (percentDecoded (text.map fun c ↦ if c = '+' then ' ' else c)))

def queryPairs (query : List Char) : List (String × String) :=
  ((query.splitOnP (· == '&')).filter fun piece ↦ !piece.isEmpty).map fun piece ↦
    (String.ofList (decodeForm (piece.takeWhile (· != '='))),
      String.ofList (decodeForm ((piece.dropWhile (· != '=')).drop 1)))

end TableQueue.Url
