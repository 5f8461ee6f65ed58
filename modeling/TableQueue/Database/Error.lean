/-!
# Database errors

What can go wrong between a worker and its database, with the message of each case and the messages
of the causes beneath it.
-/

namespace TableQueue

/-- A failure reported by the database or on the way to it. -/
inductive DatabaseError where
  /-- A query that must give a row gave none. -/
  | rowNotFound
  /-- No connection of the pool became free in time. -/
  | poolTimedOut
  /-- The pool has been closed. -/
  | poolClosed
  /-- The task that serves the connection has died. -/
  | workerCrashed
  /-- The connection settings are unusable. -/
  | configuration (text : String)
  /-- The peer does not follow the wire protocol. -/
  | protocol (text : String)
  /-- A value could not be read. -/
  | decode (text : String)
  /-- The value of one column could not be read. -/
  | columnDecode (column : Nat) (text : String)
  /-- The row has no column of this name. -/
  | columnNotFound (name : String)
  /-- The connection failed. -/
  | io (text : String)
  /-- The server refused the statement. -/
  | refused (text : String)
deriving DecidableEq, Repr, Inhabited

namespace DatabaseError

def message : DatabaseError → String
  | rowNotFound => "no rows returned by a query that expected to return at least one row"
  | poolTimedOut => "pool timed out while waiting for an open connection"
  | poolClosed => "attempted to acquire a connection on a closed pool"
  | workerCrashed => "attempted to communicate with a crashed background worker"
  | configuration text => "error with configuration: " ++ text
  | protocol text => "encountered unexpected or invalid data: " ++ text
  | decode text => "error occurred while decoding: " ++ text
  | columnDecode column text =>
    "error occurred while decoding column " ++ toString column ++ ": " ++ text
  | columnNotFound name => "no column found for name: " ++ name
  | io text => "error communicating with database: " ++ text
  | refused text => "error returned from database: " ++ text

/-- The messages of the causes beneath an error, nearest first. -/
def causes : DatabaseError → List String
  | configuration text | decode text | columnDecode _ text | io text | refused text => [text]
  | rowNotFound | poolTimedOut | poolClosed | workerCrashed | protocol _ | columnNotFound _ => []

end DatabaseError

end TableQueue
