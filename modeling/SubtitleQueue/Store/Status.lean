import SubtitleQueue.Text.Case

/-!
The states a request and a media item pass through, and the kinds of media. A request is
live while pending or in progress and terminal afterwards; only live requests count as
active. Each state has one lower-case name, which is also how it is stored and read back
(in any case).
-/

namespace SubtitleQueue

/-- The lifecycle state of a request. -/
inductive RequestStatus where
  | pending
  | inProgress
  | completed
  | failed
  | cancelled
  | interrupted
  deriving Repr, DecidableEq, Inhabited

namespace RequestStatus

/-- Every status, in lifecycle order. -/
def all : List RequestStatus := [.pending, .inProgress, .completed, .failed, .cancelled, .interrupted]

/-- The stored name. -/
def name : RequestStatus → String
  | .pending => "pending"
  | .inProgress => "in_progress"
  | .completed => "completed"
  | .failed => "failed"
  | .cancelled => "cancelled"
  | .interrupted => "interrupted"

/-- A status that ends the request's lifecycle. -/
def isTerminal : RequestStatus → Bool
  | .pending | .inProgress => false
  | _ => true

/-- The status named by a text, in any case. -/
def ofName? (s : String) : Option RequestStatus :=
  all.find? (·.name == Text.lower s)

end RequestStatus

/-- The kind of a media item. -/
inductive MediaKind where
  | movie
  | episode
  deriving Repr, DecidableEq, Inhabited

namespace MediaKind

/-- The stored name. -/
def name : MediaKind → String
  | .movie => "movie"
  | .episode => "episode"

/-- The kind named by a text, in any case. -/
def ofName? (s : String) : Option MediaKind :=
  [MediaKind.movie, .episode].find? (·.name == Text.lower s)

end MediaKind

/-- How far the subtitles of a media item are. -/
inductive MediaState where
  | notStarted
  | pending
  | inProgress
  | complete
  | failed
  deriving Repr, DecidableEq, Inhabited

namespace MediaState

/-- The stored name. -/
def name : MediaState → String
  | .notStarted => "not_started"
  | .pending => "pending"
  | .inProgress => "in_progress"
  | .complete => "complete"
  | .failed => "failed"

/-- The state named by a text, in any case. -/
def ofName? (s : String) : Option MediaState :=
  [MediaState.notStarted, .pending, .inProgress, .complete, .failed].find? (·.name == Text.lower s)

end MediaState

end SubtitleQueue
