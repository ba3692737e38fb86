import SubtitleQueue.Text.Blank

/-!
Cues: one subtitle each, shown from `start` to `stop` (milliseconds) with its text. A cue's
sequence number is also its position in a batch of lines sent to a backend. A cue is written
as its number, the two timestamps joined by an arrow, the text and a blank line.
-/

namespace SubtitleQueue.Subtitle

/-- One subtitle. -/
structure Cue where
  seq : Nat
  start : Nat
  stop : Nat
  text : String
  deriving Repr, DecidableEq, Inhabited

/-- Why a cue cannot be built. -/
inductive CueError where
  | emptyRange (start stop : Nat)
  | emptyText (seq : Nat)
  deriving Repr, DecidableEq

/-- The text of a failure. -/
def CueError.message : CueError → String
  | .emptyRange start stop =>
    "Invalid time range: end time " ++ toString stop ++ " <= start time " ++ toString start
  | .emptyText seq => "Empty subtitle text for entry " ++ toString seq

namespace Cue

/-- A cue whose time range is not empty and whose text has more than blanks; the text is
stored trimmed. -/
def make (seq start stop : Nat) (text : String) : Except CueError Cue :=
  if stop ≤ start then .error (.emptyRange start stop)
  else
    let t := Text.trim text
    if t.isEmpty then .error (.emptyText seq)
    else .ok { seq, start, stop, text := t }

/-- How long the cue is shown; zero when it ends before it starts. -/
def duration (c : Cue) : Nat := c.stop - c.start

/-- `n` written with at least `width` digits. -/
def padded (width n : Nat) : String :=
  let ds := toString n
  String.ofList (List.replicate (width - ds.length) '0') ++ ds

/-- A time as `HH:MM:SS,mmm`; hours take as many digits as they need. -/
def timestamp (ms : Nat) : String :=
  padded 2 (ms / 3600000) ++ ":" ++ padded 2 (ms % 3600000 / 60000) ++ ":" ++
    padded 2 (ms % 60000 / 1000) ++ "," ++ padded 3 (ms % 1000)

/-- The written form of a cue. -/
def render (c : Cue) : String :=
  toString c.seq ++ "\n" ++ timestamp c.start ++ " --> " ++ timestamp c.stop ++ "\n" ++
    c.text ++ "\n\n"

end Cue

end SubtitleQueue.Subtitle
