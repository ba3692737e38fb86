import SubtitleQueue.Job.Outcome

/-!
What a run of the worker pool came to: how many of its executions completed, failed, were
cancelled or were skipped, how many requests it found left in progress at the start, and how
many it handed back to the queue at shutdown.
-/

namespace SubtitleQueue.Queue

open Job

/-- What one run of the pool did. -/
structure PoolReport where
  /-- Requests found in progress at the start and put back to pending. -/
  recovered : Nat := 0
  completed : Nat := 0
  failed : Nat := 0
  cancelled : Nat := 0
  skipped : Nat := 0
  /-- Executions cut off by shutdown and handed back to the queue. -/
  abandoned : Nat := 0
  deriving Repr, DecidableEq, Inhabited

/-- Counts one more execution with an outcome. -/
def PoolReport.record (r : PoolReport) : Outcome → PoolReport
  | .completed => { r with completed := r.completed + 1 }
  | .failed => { r with failed := r.failed + 1 }
  | .cancelled => { r with cancelled := r.cancelled + 1 }
  | .skipped => { r with skipped := r.skipped + 1 }

/-- The closing line of a run. -/
def PoolReport.summary (r : PoolReport) : String :=
  "Worker pool stopped: " ++ toString r.completed ++ " completed, " ++ toString r.failed ++
    " failed, " ++ toString r.cancelled ++ " cancelled, " ++ toString r.abandoned ++ " abandoned"

end SubtitleQueue.Queue
