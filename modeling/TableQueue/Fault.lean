import TableQueue.Database.Error
import TableQueue.Text.Quoted

/-!
# Faults

The ways in which the queue itself, as opposed to a job, can go wrong: unusable settings, lifecycle
calls out of order, and database errors with the operation that met them.
-/

namespace TableQueue

/-- A fault of the settings, the lifecycle or the database. -/
inductive Fault where
  | database (operation : String) (source : DatabaseError)
  | configuration (text : String)
  /-- A variable of the environment has an index that no sequence can have. -/
  | impossibleIndex (setting : String)
  | invalidThrottleRule (rule reason : String)
  | invalidDeduplicateDisable (spec : String)
  | duplicateSetting (setting : String)
  | missingSetting (setting : String)
  | noConsumers
  | noRuntime
  | alreadyRunning
  | notRunning
  | notStopped
deriving DecidableEq, Repr

namespace Fault

def message : Fault → String
  | database operation source => "Database error: " ++ operation ++ ": " ++ source.message
  | configuration text => "Configuration error: " ++ text
  | impossibleIndex setting => "No sequence has the index that is given for " ++ setting
  | invalidThrottleRule rule reason =>
    "Invalid throttle rule: " ++ Text.quoted rule ++ ": " ++ reason
  | invalidDeduplicateDisable spec => "Invalid deduplicate-disable spec: " ++ Text.quoted spec
  | duplicateSetting setting => setting ++ " has already been set"
  | missingSetting setting => setting ++ " must be set"
  | noConsumers => "No consumer is supplied"
  | noRuntime => "No tokio runtime available to run the queue workers"
  | alreadyRunning => "Consumer has already been started"
  | notRunning => "Consumer is not running"
  | notStopped => "Consumer is not stopped"

/-- The messages of the causes beneath a fault, nearest first. -/
def causes : Fault → List String
  | database _ source => source.message :: source.causes
  | _ => []

/-- The messages of a fault and of everything beneath it. -/
def chain (fault : Fault) : List String :=
  fault.message :: fault.causes

end Fault

end TableQueue
