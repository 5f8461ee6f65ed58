import TableQueue.Decimal.Reader
import TableQueue.Decimal.Shortest
import TableQueue.Text.Lowercase
import TableQueue.Text.Quoted

/-!
# Values of environment variables

A variable is read as a truth value, a whole number, a decimal number or a text, in this order of
preference, and converted to what a setting needs. Numbers round half away from zero and stop at the
ends of the range; a few words stand for truth values; and a number that a setting wants as text is
written anew, so its spelling is not kept.
-/

namespace TableQueue

/-- A variable as it is read. -/
inductive Variable where
  | truth (b : Bool)
  | whole (n : Int)
  | decimal (x : Binary64)
  | text (s : String)
  /-- Variables grouped under names. -/
  | table
  /-- Variables grouped under positions. -/
  | sequence
deriving DecidableEq, Repr

namespace Variable

def ofText (text : String) : Variable :=
  let chars := text.toList
  let lowered := Text.lowercase chars
  if lowered = "true".toList then truth true
  else if lowered = "false".toList then truth false
  else match Text.signed64? chars with
    | some n => whole n
    | none => match Binary64.read? chars with
      | some x => decimal x
      | none => .text text

/-- Why a variable does not suit a setting. -/
structure Mismatch where
  found : String
  expected : String
  /-- Whether the fault lies in one variable of the environment. -/
  located : Bool
deriving DecidableEq, Repr

def Mismatch.message (mismatch : Mismatch) (key : String) : String :=
  "invalid type: " ++ mismatch.found ++ ", expected " ++ mismatch.expected ++ " for key `" ++ key ++
    "`" ++ (if mismatch.located then " in the environment" else "")

/-- How a text is named in a mismatch. -/
def foundText (s : String) : String := "string " ++ Text.quoted s

def affirmative : List String := ["true", "on", "yes"]

def negative : List String := ["false", "off", "no"]

def toUnsigned : Variable → Except Mismatch Nat
  | whole n =>
    if n < 0 then
      .error ⟨"64-bit integer `" ++ toString n ++ "`", "an unsigned 64 bit or less integer", true⟩
    else .ok n.toNat
  | truth b => .ok (if b then 1 else 0)
  | decimal x => .ok (x.toBounded 0 Text.maxUnsigned64).toNat
  | text s =>
    let word := String.ofList (Text.lowercase s.toList)
    if affirmative.contains word then .ok 1
    else if negative.contains word then .ok 0
    else .error ⟨foundText s, "an integer", true⟩
  | table => .error ⟨"map", "an integer", false⟩
  | sequence => .error ⟨"sequence", "an integer", false⟩

def toUnsigned32 (v : Variable) : Except Mismatch Nat := do
  let n ← v.toUnsigned
  if n < 4294967296 then pure n
  else throw ⟨"64-bit unsigned integer `" ++ toString n ++ "`", "an unsigned 32 bit integer", false⟩

def toTruth : Variable → Except Mismatch Bool
  | truth b => .ok b
  | whole n => .ok (n != 0)
  | decimal x => .ok (!x.isZero)
  | text s =>
    let word := String.ofList (Text.lowercase s.toList)
    if word = "1" ∨ affirmative.contains word then .ok true
    else if word = "0" ∨ negative.contains word then .ok false
    else .error ⟨foundText word, "a boolean", true⟩
  | table => .error ⟨"map", "a boolean", false⟩
  | sequence => .error ⟨"sequence", "a boolean", false⟩

def toText : Variable → Except Mismatch String
  | truth b => .ok (if b then "true" else "false")
  | whole n => .ok (toString n)
  | decimal x => .ok x.text
  | text s => .ok s
  | table => .error ⟨"map", "a string", false⟩
  | sequence => .error ⟨"sequence", "a string", false⟩

end Variable

end TableQueue
