import TableQueue.Database.Error
import TableQueue.Database.Url.Reader
import TableQueue.Text.Quoted

/-!
# Database addresses

A worker finds its database by host, port and database name. They come from a location, and entries
of its query override its parts. A location may be given directly or in the environment.
-/

namespace TableQueue

/-- Where a database is. -/
structure Address where
  host : String
  port : Nat
  database : Option String
deriving DecidableEq, Repr

namespace Address

def default : Address := ⟨"localhost", 5432, none⟩

/-- The variable that holds the location. -/
def locationVariable : String := "DATABASE_URL"

def encryptionModes : List String :=
  ["disable", "allow", "prefer", "require", "verify-ca", "verify-full"]

def addDigit (limit : Nat) (value : Nat) (c : Char) : Except DatabaseError Nat :=
  if !Text.isDigit c then .error (.configuration "invalid digit found in string")
  else
    let value := 10 * value + Text.digitValue c
    if value ≤ limit then .ok value
    else .error (.configuration "number too large to fit in target type")

/-- Reads a whole number up to a limit, with or without a plus sign. A text that is none is refused
for its first character that is no digit or exceeds the limit. -/
def readNumber (limit : Nat) (text : String) : Except DatabaseError Nat :=
  match text.toList with
  | [] => .error (.configuration "cannot parse integer from empty string")
  | '+' :: c :: rest => (c :: rest).foldlM (addDigit limit) 0
  | chars => chars.foldlM (addDigit limit) 0

def isNumericHost (text : List Char) : Bool :=
  (Url.readDotted text).isSome || (Url.readIpv6 text).isSome

/-- Takes one entry of a query into account. -/
def applyEntry (address : Address) (entry : String × String) : Except DatabaseError Address :=
  let (key, value) := entry
  match key with
  | "sslmode" | "ssl-mode" =>
    if encryptionModes.contains (String.ofList (value.toList.map Char.toLower)) then .ok address
    else .error (.configuration (DatabaseError.configuration
      ("unknown value " ++ Text.quoted value ++ " for `ssl_mode`")).message)
  | "statement-cache-capacity" =>
    (readNumber Text.maxUnsigned64 value).map fun _ ↦ address
  | "host" =>
    if value.startsWith "/" then .ok address else .ok { address with host := value }
  | "hostaddr" =>
    if isNumericHost value.toList then .ok { address with host := value }
    else .error (.configuration "invalid IP address syntax")
  | "port" => (readNumber 65535 value).map fun port ↦ { address with port }
  | "dbname" => .ok { address with database := some value }
  | _ => .ok address

def decodePart (part : List Char) : Except DatabaseError String :=
  match Url.decodeStrict part with
  | .ok text => .ok (String.ofList text)
  | .error text => .error (.configuration text)

/-- The address of the parts of a location. A host that begins with a slash is a socket on this
machine. It has to be readable, and so have the credentials, although neither is part of the
address. -/
def ofParts (parts : Url.Parts) : Except DatabaseError Address := do
  let host ← match parts.host with
    | none => pure default.host
    | some host =>
      if (Url.percentDecoded host).head? = some '/'.toNat then
        let _ ← decodePart host
        pure default.host
      else pure (String.ofList host)
  let _ ← parts.credentials.mapM decodePart
  let path := parts.path.dropWhile (· == '/')
  let database ← if path.isEmpty then pure none else some <$> decodePart path
  (Url.queryPairs parts.query).foldlM applyEntry
    ⟨host, parts.port.getD default.port, database⟩

def ofUrl (text : String) : Except DatabaseError Address :=
  match Url.read text.toList with
  | .ok parts => ofParts parts
  | .error problem => .error (.configuration problem.message)

def ofEnvironment (pairs : List (String × String)) : Except DatabaseError Address :=
  match pairs.lookup locationVariable with
  | some text => ofUrl text
  | none => .error (.configuration (locationVariable ++ " is not set"))

end Address

end TableQueue
