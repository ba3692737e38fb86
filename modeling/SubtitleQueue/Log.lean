/-!
Log lines of the library: a level and a message. Only the levels that are ever shown are kept:
information, warnings and errors.
-/

namespace SubtitleQueue.Log

/-- How serious a log line is. -/
inductive Level where
  | info
  | warn
  | error
  deriving Repr, DecidableEq, Inhabited

/-- The name of a level as logs print it. -/
def Level.name : Level → String
  | .info => "info"
  | .warn => "warn"
  | .error => "error"

/-- A log line: a level and a message. -/
structure LogLine where
  level : Level
  message : String
  deriving Repr, DecidableEq, Inhabited

end SubtitleQueue.Log
