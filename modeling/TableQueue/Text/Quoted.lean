import TableQueue.Text.Printable

/-!
# Quoted texts

A text inside a message is quoted: it stands between double quotes, with a backslash before a quote
or backslash, short escapes for the common controls, and code points in hexadecimal for every other
character that would not show as itself. Quoting is injective, so a message determines the text it
quotes.
-/

namespace TableQueue.Text

/-- The lowercase hexadecimal digits of a code point. -/
def hexadecimal (n : Nat) : List Char :=
  Nat.toDigits 16 n

def quoteChar (c : Char) : List Char :=
  if c = '"' then ['\\', '"']
  else if c = '\\' then ['\\', '\\']
  else if c = '\n' then ['\\', 'n']
  else if c = '\r' then ['\\', 'r']
  else if c = '\t' then ['\\', 't']
  else if c.toNat = 0 then ['\\', '0']
  else if isShown c then [c]
  else ['\\', 'u', '\x7b'] ++ hexadecimal c.toNat ++ ['\x7d']

def quoted (text : String) : String :=
  String.ofList ('"' :: text.toList.flatMap quoteChar ++ ['"'])

def quotedList (texts : List String) : String :=
  "[" ++ ", ".intercalate (texts.map quoted) ++ "]"

end TableQueue.Text
