import TableQueue.Settings.Environment
import TableQueue.Settings.QueueNames

/-!
# Partial settings

Settings may be given explicitly or by the environment, and either may leave some of them open. Both
are kept as a record in which every setting is optional; lengths of time are whole milliseconds.
-/

namespace TableQueue

/-- Settings of which any may be open. -/
structure Overrides where
  queueNames : Option (List String)
  maxTries : Option Nat
  emptyQueueSleepMillis : Option Nat
  maxQueryTimeMillis : Option Nat
  rescanEvery : Option Nat
  idleRescanEvery : Option Nat
  databaseConnectThrottle : Option String
  failureThrottle : Option String
  deduplicateDisable : Option String
  includePostponedDuplicates : Option Bool
deriving DecidableEq, Repr

namespace Overrides

def empty : Overrides :=
  ⟨none, none, none, none, none, none, none, none, none, none⟩

def ofEnvironment (environment : Environment) : Except String Overrides := do
  let names ← environment.read Variable.toText "queue_names"
  let maxTries ← environment.read Variable.toUnsigned32 "max_tries"
  let sleep ← environment.read Variable.toUnsigned "empty_queue_sleep_ms"
  let queryTime ← environment.read Variable.toUnsigned "max_query_time_ms"
  let rescan ← environment.read Variable.toUnsigned32 "rescan_every"
  let idleRescan ← environment.read Variable.toUnsigned32 "idle_rescan_every"
  let connectThrottle ← environment.read Variable.toText "database_connect_throttle"
  let failureThrottle ← environment.read Variable.toText "failure_throttle"
  let deduplicateDisable ← environment.read Variable.toText "deduplicate_disable"
  let includePostponed ← environment.read Variable.toTruth "include_postponed_duplicates"
  pure ⟨names.map splitQueueNames, maxTries, sleep, queryTime, rescan, idleRescan, connectThrottle,
    failureThrottle, deduplicateDisable, includePostponed⟩

def ofVariables (pairs : List (String × String)) : Except Fault Overrides :=
  (Environment.ofVariables pairs).bind fun environment ↦
    (ofEnvironment environment).mapError Fault.configuration

end Overrides

end TableQueue
