/-!
How a job ends: it recorded a final status (completed, failed or cancelled), or it did nothing
because the request was gone or belonged to another execution.
-/

namespace SubtitleQueue.Job

/-- How a job ended. -/
inductive Outcome where
  | completed
  | failed
  | cancelled
  /-- The request vanished or belongs to another execution; nothing was done. -/
  | skipped
  deriving Repr, DecidableEq, Inhabited

/-- The name of an outcome. -/
def Outcome.name : Outcome → String
  | .completed => "completed"
  | .failed => "failed"
  | .cancelled => "cancelled"
  | .skipped => "skipped"

end SubtitleQueue.Job
