import TableQueue.Time.Calendar

/-!
# Job metadata

Every job carries the name of its queue, when it was first queued, when it became eligible, and the
number of the present attempt.
-/

namespace TableQueue

/-- Where and when a job was queued and how often it has been tried, the present attempt included.
-/
structure JobMeta where
  queue : String
  queued : ClockTime
  dequeueAfter : ClockTime
  tries : Int
deriving DecidableEq, Repr, Inhabited

namespace JobMeta

def text (job : JobMeta) : String :=
  "Job\x7bconsumer=" ++ job.queue ++ ", queued=" ++ job.queued.timestamp ++ ", dequeueAfter=" ++
    job.dequeueAfter.timestamp ++ ", tries=" ++ toString job.tries ++ "\x7d"

def maxTries : Int := 2147483647

/-- The number of the attempt made with a row that holds a number of earlier attempts. -/
def nextTry (stored : Int) : Int :=
  min maxTries (stored + 1)

end JobMeta

end TableQueue
