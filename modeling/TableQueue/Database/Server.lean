import TableQueue.Database.Store

/-!
# The database server

The server owns the store and the connections. Each connection is a session of the store with the
statements prepared on it. A mishap may hit a statement: the server refuses it, drops the
connection, or reports a wrong number of rows. A connection that is gone answers every further
request with an error.
-/

namespace TableQueue

/-- What becomes of a connection. -/
inductive ConnectionState where
  | live
  /-- Closed by the client. -/
  | terminated
  /-- Closed by the server. -/
  | dropped
  /-- Abandoned by a client that has died. -/
  | lost
deriving DecidableEq, Repr

/-- A connection, numbered in the order of connecting. -/
structure Connection where
  session : Nat
  state : ConnectionState
  prepared : Prepared Statement.Purpose
deriving Repr

/-- What may befall a statement. -/
inductive Mishap where
  | refusal (text : String)
  | disconnection
  /-- The statement is carried out, but an insertion reports this number of rows. -/
  | miscount (rows : Nat)
deriving DecidableEq, Repr

/-- The store with its connections. -/
structure Server where
  store : Store
  connections : List Connection
deriving Repr

namespace Server

def goneError : DatabaseError := .io "expected to read 5 bytes, got 0 bytes at EOF"

def closingError : DatabaseError := .io "Broken pipe (os error 32)"

def connection? (server : Server) (session : Nat) : Option Connection :=
  server.connections.find? (·.session == session)

def isLive (server : Server) (session : Nat) : Bool :=
  match server.connection? session with
  | some connection => connection.state == .live
  | none => false

def update (server : Server) (session : Nat) (change : Connection → Connection) : Server :=
  { server with connections := server.connections.map fun connection ↦
      if connection.session == session then change connection else connection }

def connect (server : Server) : Server × Nat :=
  let session := server.connections.length
  ({ server with connections :=
      server.connections ++ [⟨session, .live, Prepared.empty⟩] }, session)

/-- Ends a connection in some way; its transaction is rolled back. -/
def disconnect (server : Server) (session : Nat) (state : ConnectionState) : Server :=
  { (server.update session fun connection ↦ { connection with state }) with
    store := server.store.endSession session }

/-- Closes a connection from the client's side. -/
def close (server : Server) (session : Nat) : Server × Except DatabaseError Unit :=
  if server.isLive session then (server.disconnect session .terminated, .ok ())
  else (server, .error closingError)

/-- Notes that a statement is used on a connection and says whether it had to be prepared. -/
def prepare (server : Server) (session : Nat) (statement : Statement) : Server × Bool :=
  match statement.purpose?, server.connection? session with
  | some purpose, some connection =>
    let (prepared, new) := connection.prepared.mark purpose
    (server.update session fun connection ↦ { connection with prepared }, new)
  | _, _ => (server, false)

/-- Drops the statements prepared on a connection and says which there were. -/
def deallocate (server : Server) (session : Nat) : Server × List Statement.Purpose :=
  match server.connection? session with
  | some connection =>
    (server.update session fun connection ↦ { connection with prepared := Prepared.empty },
      connection.prepared.purposes)
  | none => (server, [])

/-- The reply of an insertion with another number of rows. -/
def miscounted (rows : Nat) : (statement : Statement) → statement.Reply → statement.Reply
  | .putBack .., _ | .putOff .., _ | .archive .., _ | .note _, _ => rows
  | .command _, reply | .oldest _, reply | .recent, reply | .claim .., reply
  | .takeDuplicates .., reply => reply

/-- A statement reaches a live connection, where a mishap may hit it. -/
def serve (server : Server) (session : Nat) (now : Instant) (mishap : Option Mishap)
    (statement : Statement) : Server × Except DatabaseError statement.Reply :=
  match mishap with
  | some (.refusal text) =>
    ({ server with store := server.store.refuse session statement }, .error (.refused text))
  | some .disconnection => (server.disconnect session .dropped, .error goneError)
  | some (.miscount rows) =>
    let (store, reply) := server.store.perform session now statement
    ({ server with store }, reply.map (miscounted rows statement))
  | none =>
    let (store, reply) := server.store.perform session now statement
    ({ server with store }, reply)

end Server

end TableQueue
