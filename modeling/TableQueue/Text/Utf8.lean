/-!
# UTF-8

Texts that arrive as bytes are read as UTF-8. A sequence of bytes is cut into characters and into
malformed pieces; reading strictly reports the first malformed piece, and reading loosely puts the
replacement character in the place of each.
-/

namespace TableQueue.Text.Utf8

inductive Piece where
  | character (c : Char) (length : Nat)
  /-- Bytes that no continuation makes well formed. -/
  | malformed (length : Nat)
  /-- The end came inside a character. -/
  | incomplete
deriving Repr

/-- The bytes admitted after a first byte, and the number of bytes of the character. -/
def shape (first : Nat) : Option (Nat × Nat × Nat) :=
  if 0xc2 ≤ first && first ≤ 0xdf then some (2, 0x80, 0xbf)
  else if first = 0xe0 then some (3, 0xa0, 0xbf)
  else if first = 0xed then some (3, 0x80, 0x9f)
  else if 0xe1 ≤ first && first ≤ 0xef then some (3, 0x80, 0xbf)
  else if first = 0xf0 then some (4, 0x90, 0xbf)
  else if 0xf1 ≤ first && first ≤ 0xf3 then some (4, 0x80, 0xbf)
  else if first = 0xf4 then some (4, 0x80, 0x8f)
  else none

/-- Reads the continuation bytes after the second one. -/
def continueFrom (value read : Nat) : Nat → List Nat → Piece
  | 0, _ => .character (Char.ofNat value) read
  | _ + 1, [] => .incomplete
  | missing + 1, byte :: rest =>
    if 0x80 ≤ byte && byte ≤ 0xbf then
      continueFrom (value * 64 + (byte - 0x80)) (read + 1) missing rest
    else .malformed read

def nextPiece (first : Nat) (rest : List Nat) : Piece :=
  if first < 0x80 then .character (Char.ofNat first) 1
  else match shape first with
    | none => .malformed 1
    | some (length, low, high) =>
      match rest with
      | [] => .incomplete
      | second :: rest =>
        if low ≤ second && second ≤ high then
          let lead := first - (if length = 2 then 0xc0 else if length = 3 then 0xe0 else 0xf0)
          continueFrom (lead * 64 + (second - 0x80)) 2 (length - 2) rest
        else .malformed 1

/-- Cuts a sequence into pieces. The fuel is the number of bytes: every piece takes at least one. -/
def piecesFrom : Nat → List Nat → List Piece
  | 0, _ => []
  | _, [] => []
  | fuel + 1, first :: rest =>
    match nextPiece first rest with
    | .character c length => .character c length :: piecesFrom fuel (rest.drop (length - 1))
    | .malformed length => .malformed length :: piecesFrom fuel (rest.drop (length - 1))
    | .incomplete => [.incomplete]

def split (bytes : List Nat) : List Piece :=
  piecesFrom bytes.length bytes

def strict (index : Nat) : List Piece → Except String (List Char)
  | [] => .ok []
  | .character c length :: rest => (strict (index + length) rest).map (c :: ·)
  | .malformed length :: _ =>
    .error ("invalid utf-8 sequence of " ++ toString length ++ " bytes from index " ++
      toString index)
  | .incomplete :: _ =>
    .error ("incomplete utf-8 byte sequence from index " ++ toString index)

def loose : List Piece → List Char
  | [] => []
  | .character c _ :: rest => c :: loose rest
  | _ :: rest => Char.ofNat 0xfffd :: loose rest

def encode (c : Char) : List Nat :=
  (String.ofList [c]).toUTF8.toList.map UInt8.toNat

end TableQueue.Text.Utf8
