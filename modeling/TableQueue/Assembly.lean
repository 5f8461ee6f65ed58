import TableQueue.Breaker
import TableQueue.Health
import TableQueue.Log.Basic
import TableQueue.Settings.Basic
import TableQueue.Throttle.Basic

/-!
# Assembling a crew

A crew is described by a sequence of choices: its settings, the collaborators it works with, and the
environment that fills what is left open. Each choice may be made once. The description is checked
in a fixed order, so the first fault in that order is reported whatever the order of the choices.
-/

namespace TableQueue

/-- One choice in the description of a crew. -/
inductive Choice where
  | queueNames (names : List String)
  | maxTries (n : Nat)
  | emptyQueueSleep (span : Span)
  | maxQueryTime (span : Span)
  | rescanEvery (cycles : Nat)
  | idleRescanEvery (cycles : Nat)
  | databaseConnectThrottle (rules : String)
  | failureThrottle (rules : String)
  | deduplicateDisable (spec : String)
  | includePostponedDuplicates (included : Bool)
  /-- The database is known. -/
  | dataSource
  /-- Duplicates of a job are to be removed. -/
  | skipDuplicateJobs
  /-- Measurements are to be recorded. -/
  | metrics
  /-- Calls count as hung beyond this age. -/
  | health (threshold : Span)
  /-- The runtime for the workers is given. -/
  | runtime
  /-- These variables stand for those of the process. -/
  | environment (pairs : List (String × String))
deriving DecidableEq, Repr

namespace Choice

def setting : Choice → String
  | queueNames _ => "queue names"
  | maxTries _ => "max tries"
  | emptyQueueSleep _ => "empty queue sleep"
  | maxQueryTime _ => "max query time"
  | rescanEvery _ => "rescan every"
  | idleRescanEvery _ => "idle rescan every"
  | databaseConnectThrottle _ => "database connect throttle"
  | failureThrottle _ => "failure throttle"
  | deduplicateDisable _ => "deduplicate disable"
  | includePostponedDuplicates _ => "include postponed duplicates"
  | dataSource => "data source"
  | skipDuplicateJobs => "skip duplicate jobs"
  | metrics => "metrics"
  | health _ => "health"
  | runtime => "runtime"
  | environment _ => "environment"

/-- Whole milliseconds of a span, at most the largest 64-bit number. -/
def boundedMillis (span : Span) : Nat :=
  min span.millis Text.maxUnsigned64

end Choice

/-- A description of a crew. -/
structure Assembly where
  explicit : Overrides
  hasDataSource : Bool
  skipsDuplicates : Bool
  hasMetrics : Bool
  health : Option Span
  hasRuntime : Bool
  environment : Option (List (String × String))
deriving Repr

namespace Assembly

def empty : Assembly :=
  ⟨Overrides.empty, false, false, false, none, false, none⟩

def choose (assembly : Assembly) : Choice → Assembly
  | .queueNames names =>
    { assembly with explicit := { assembly.explicit with queueNames := some names } }
  | .maxTries n => { assembly with explicit := { assembly.explicit with maxTries := some n } }
  | .emptyQueueSleep span =>
    { assembly with explicit :=
      { assembly.explicit with emptyQueueSleepMillis := some (Choice.boundedMillis span) } }
  | .maxQueryTime span =>
    { assembly with explicit :=
      { assembly.explicit with maxQueryTimeMillis := some (Choice.boundedMillis span) } }
  | .rescanEvery cycles =>
    { assembly with explicit := { assembly.explicit with rescanEvery := some cycles } }
  | .idleRescanEvery cycles =>
    { assembly with explicit := { assembly.explicit with idleRescanEvery := some cycles } }
  | .databaseConnectThrottle rules =>
    { assembly with explicit := { assembly.explicit with databaseConnectThrottle := some rules } }
  | .failureThrottle rules =>
    { assembly with explicit := { assembly.explicit with failureThrottle := some rules } }
  | .deduplicateDisable spec =>
    { assembly with explicit := { assembly.explicit with deduplicateDisable := some spec } }
  | .includePostponedDuplicates included =>
    { assembly with explicit :=
      { assembly.explicit with includePostponedDuplicates := some included } }
  | .dataSource => { assembly with hasDataSource := true }
  | .skipDuplicateJobs => { assembly with skipsDuplicates := true }
  | .metrics => { assembly with hasMetrics := true }
  | .health threshold => { assembly with health := some threshold }
  | .runtime => { assembly with hasRuntime := true }
  | .environment pairs => { assembly with environment := some pairs }

def ofChoices (choices : List Choice) : Assembly :=
  choices.foldl choose empty

def firstRepeated (seen : List String) : List Choice → Option String
  | [] => none
  | choice :: rest =>
    if seen.contains choice.setting then some choice.setting
    else firstRepeated (choice.setting :: seen) rest

/-- What a crew is given from outside. -/
structure Surroundings where
  /-- The number of workers. -/
  workers : Nat
  /-- The variables of the process. -/
  process : List (String × String)
  /-- Whether a runtime is at hand that was not chosen. -/
  ambientRuntime : Bool

/-- Everything that the workers of a crew share at the start. -/
structure Plan where
  settings : Settings
  workers : Nat
  connectThrottle : Throttle
  failureThrottle : Throttle
  breaker : Breaker
  health : Health
  skipsDuplicates : Bool
  /-- What was logged while the plan was made. -/
  log : List Log.Event
deriving Repr

def metricsDiscarded : Log.Event :=
  ⟨.warn, "No metrics configured - queue metrics are discarded", []⟩

/-- Checks a description without repetitions, in a fixed order. -/
def check (assembly : Assembly) (surroundings : Surroundings) : Except Fault Plan := do
  let environment ← Overrides.ofVariables (assembly.environment.getD surroundings.process)
  let settings ← (Settings.merge assembly.explicit environment).validated
  unless assembly.hasDataSource do throw (.missingSetting "data source")
  if surroundings.workers = 0 then throw .noConsumers
  let connectThrottle ← Throttle.ofSpec settings.databaseConnectThrottle
  let failureThrottle ← Throttle.ofSpec settings.failureThrottle
  let breaker ← Breaker.parse settings.deduplicateDisable
  unless assembly.hasRuntime || surroundings.ambientRuntime do throw .noRuntime
  pure {
    settings
    workers := surroundings.workers
    connectThrottle
    failureThrottle
    breaker
    health := Health.ofThreshold (assembly.health.getD Health.defaultThreshold)
    skipsDuplicates := assembly.skipsDuplicates
    log := if assembly.hasMetrics then [] else [metricsDiscarded] }

def plan (choices : List Choice) (surroundings : Surroundings) : Except Fault Plan :=
  match firstRepeated [] choices with
  | some setting => .error (.duplicateSetting setting)
  | none => (ofChoices choices).check surroundings

end Assembly

end TableQueue
