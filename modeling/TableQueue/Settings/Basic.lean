import TableQueue.Settings.Overrides
import TableQueue.Time.Basic

/-!
# Settings

The complete settings of a crew of workers. An explicit setting comes before one from the
environment, and that before the default. Settings are valid when there is a queue to serve and the
counts are at least one.
-/

namespace TableQueue

structure Settings where
  /-- The queues to serve, in the order in which they are polled. -/
  queueNames : List String
  /-- The number of attempts after which a failing job is archived. -/
  maxTries : Nat
  /-- How long a worker sleeps when it found no job. -/
  emptyQueueSleep : Span
  /-- The duration of a probe from which on the prepared statements are dropped. -/
  maxQueryTime : Span
  /-- The number of poll cycles between rescans. -/
  rescanEvery : Nat
  /-- The number of poll cycles between rescans while there is no job. -/
  idleRescanEvery : Nat
  databaseConnectThrottle : String
  failureThrottle : String
  deduplicateDisable : String
  /-- Whether rows that are not yet eligible count as duplicates. -/
  includePostponedDuplicates : Bool
deriving DecidableEq, Repr

namespace Settings

def default : Settings where
  queueNames := []
  maxTries := 3
  emptyQueueSleep := Span.ofMillis 10000
  maxQueryTime := Span.ofMillis 50
  rescanEvery := 100
  idleRescanEvery := 10
  databaseConnectThrottle := ""
  failureThrottle := ""
  deduplicateDisable := ""
  includePostponedDuplicates := false

/-- The first of two optional values that is given, else a default. -/
def choose {α : Type} (explicit environment : Option α) (fallback : α) : α :=
  (explicit.or environment).getD fallback

/-- Completes explicit settings by those of the environment and the defaults. -/
def merge (explicit environment : Overrides) : Settings where
  queueNames := choose explicit.queueNames environment.queueNames default.queueNames
  maxTries := choose explicit.maxTries environment.maxTries default.maxTries
  emptyQueueSleep := choose (explicit.emptyQueueSleepMillis.map Span.ofMillis)
    (environment.emptyQueueSleepMillis.map Span.ofMillis) default.emptyQueueSleep
  maxQueryTime := choose (explicit.maxQueryTimeMillis.map Span.ofMillis)
    (environment.maxQueryTimeMillis.map Span.ofMillis) default.maxQueryTime
  rescanEvery := choose explicit.rescanEvery environment.rescanEvery default.rescanEvery
  idleRescanEvery :=
    choose explicit.idleRescanEvery environment.idleRescanEvery default.idleRescanEvery
  databaseConnectThrottle := choose explicit.databaseConnectThrottle
    environment.databaseConnectThrottle default.databaseConnectThrottle
  failureThrottle :=
    choose explicit.failureThrottle environment.failureThrottle default.failureThrottle
  deduplicateDisable :=
    choose explicit.deduplicateDisable environment.deduplicateDisable default.deduplicateDisable
  includePostponedDuplicates := choose explicit.includePostponedDuplicates
    environment.includePostponedDuplicates default.includePostponedDuplicates

/-- Whether a crew can work with the settings. -/
structure IsValid (settings : Settings) : Prop where
  queueNames_ne_nil : settings.queueNames ≠ []
  one_le_maxTries : 1 ≤ settings.maxTries
  one_le_rescanEvery : 1 ≤ settings.rescanEvery
  one_le_idleRescanEvery : 1 ≤ settings.idleRescanEvery

/-- Returns valid settings, or says what is wrong with them. -/
def validated (settings : Settings) : Except Fault Settings :=
  if settings.queueNames = [] then .error (.missingSetting "queue names")
  else if settings.maxTries < 1 then .error (.configuration "max tries must be at least 1")
  else if settings.rescanEvery < 1 ∨ settings.idleRescanEvery < 1 then
    .error (.configuration "rescan intervals must be at least 1")
  else .ok settings

/-- What passes the check is valid and has not been changed by it. -/
theorem isValid_of_validated {settings result : Settings} (h : settings.validated = .ok result) :
    result = settings ∧ settings.IsValid := by
  unfold validated at h
  split at h
  · simp at h
  · split at h
    · simp at h
    · split at h
      · simp at h
      · rename_i names tries rescans
        simp only [Except.ok.injEq] at h
        exact ⟨h.symm, names, by omega, by omega, by omega⟩

def ofVariables (pairs : List (String × String)) : Except Fault Settings := do
  let environment ← Overrides.ofVariables pairs
  (merge Overrides.empty environment).validated

end Settings

end TableQueue
