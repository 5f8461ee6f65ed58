/-!
# Locations

A location names a database by a scheme, an optional authority, a path and a query. This module
holds the parts of a location that say which database is meant, the reasons why a text is none, and
the three kinds of schemes, which differ in what they admit after the scheme.
-/

namespace TableQueue.Url

/-- Why a text is no location. -/
inductive Problem where
  | relative
  | emptyHost
  | invalidPort
  | invalidIpv4
  | invalidIpv6
  | invalidHostCharacter
  | invalidDomain
deriving DecidableEq, Repr

def Problem.message : Problem → String
  | relative => "relative URL without a base"
  | emptyHost => "empty host"
  | invalidPort => "invalid port number"
  | invalidIpv4 => "invalid IPv4 address"
  | invalidIpv6 => "invalid IPv6 address"
  | invalidHostCharacter => "invalid domain character"
  | invalidDomain => "invalid international domain name"

/-- The parts of a location that say which database is meant. -/
structure Parts where
  /-- The name and the secret of a user, as far as they are given. -/
  credentials : List (List Char)
  host : Option (List Char)
  port : Option Nat
  /-- The path, without the slash at its root. -/
  path : List Char
  /-- The query, without its question mark. -/
  query : List Char
deriving DecidableEq, Repr

/-- What a scheme admits after its colon. -/
inductive Kind where
  /-- A path on this machine or on a named one. -/
  | file
  /-- A domain, with a port that need not be said. -/
  | network (usualPort : Nat)
  /-- Anything: an authority, a path, or a text. -/
  | plain
deriving DecidableEq, Repr

namespace Kind

def ofScheme (scheme : List Char) : Kind :=
  match String.ofList scheme with
  | "file" => file
  | "http" | "ws" => network 80
  | "https" | "wss" => network 443
  | "ftp" => network 21
  | _ => plain

def isSeparator (kind : Kind) (c : Char) : Bool :=
  c == '/' || (c == '\\' && kind != plain)

def endsAuthority (kind : Kind) (c : Char) : Bool :=
  kind.isSeparator c || c == '?' || c == '#'

/-- Whether a port need not be said. -/
def isUsualPort (kind : Kind) (port : Nat) : Bool :=
  kind == network port

end Kind

end TableQueue.Url
