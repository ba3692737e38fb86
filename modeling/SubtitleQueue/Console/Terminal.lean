import SubtitleQueue.Failure
import SubtitleQueue.Log
import SubtitleQueue.Config.Basic

/-!
What the program writes to its terminal. Log lines go to the error stream, each behind the
mark of its level; only information and above is ever written, and the configured level can
only raise that threshold. A program that fails ends with `Error:` and its failure: the
outermost message, then its causes under `Caused by:`, numbered when there are several.
-/

namespace SubtitleQueue.Console

open Log

/-- The mark a log line starts with: a cross for errors, a sign for warnings, a blank for
information. -/
def levelMark : Level → String
  | .error => "❌ "
  | .warn => "🚧 "
  | .info => " "

/-- A log line as written: its mark, a space and its message. -/
def logText (l : LogLine) : String := levelMark l.level ++ " " ++ l.message

/-- Whether a line of a level is written when the configuration asks for `threshold`: errors
always, warnings unless only errors are asked for, information at `info` and finer. -/
def writes (threshold : Config.LogLevel) : Level → Bool
  | .error => true
  | .warn => threshold != .error
  | .info => threshold != .error && threshold != .warn

/-- A text with every line after the first indented by `pad`. -/
def indentRest (pad s : String) : String := ("\n" ++ pad).intercalate (s.splitOn "\n")

/-- A number right-aligned in a column of five. -/
def numberColumn (n : Nat) : String :=
  let t := toString n
  String.ofList (List.replicate (5 - t.length) ' ') ++ t

/-- A failure as the program reports it: the outermost message, then under `Caused by:` the
causes, one per line and indented; several causes are numbered from zero. -/
def report (f : Fault) : String :=
  match f.chain with
  | [] => ""
  | [head] => head
  | [head, cause] => head ++ "\n\nCaused by:\n    " ++ indentRest "    " cause
  | head :: causes =>
    head ++ "\n\nCaused by:" ++ String.join (causes.zipIdx.map fun (c, i) =>
      "\n" ++ numberColumn i ++ ": " ++ indentRest "       " c)

/-- How a run of the program ended: with an exit code, or killed for running too long. -/
inductive Ending where
  | code (n : Int)
  | killed
  deriving Repr, DecidableEq, Inhabited

/-- What a run of the program wrote to its two streams, and how it ended. -/
structure Exit where
  ending : Ending
  out : String := ""
  err : String := ""
  deriving Repr, Inhabited

/-- The streams of a running program and the level its log is written at. -/
structure Terminal where
  threshold : Config.LogLevel := .info
  out : String := ""
  err : String := ""
  deriving Inhabited

namespace Terminal

/-- Writes the log lines that the threshold lets through. -/
def log (t : Terminal) (lines : List LogLine) : Terminal :=
  { t with err := t.err ++ String.join ((lines.filter fun l => writes t.threshold l.level).map
      fun l => logText l ++ "\n") }

/-- Prints lines on the output stream. -/
def print (t : Terminal) (lines : List String) : Terminal :=
  { t with out := t.out ++ String.join (lines.map (· ++ "\n")) }

/-- Ends the program with success. -/
def succeed (t : Terminal) : Exit := { ending := .code 0, out := t.out, err := t.err }

/-- Ends the program with a failure: its report, and exit code 1. -/
def fail (t : Terminal) (f : Fault) : Exit :=
  { ending := .code 1, out := t.out, err := t.err ++ "Error: " ++ report f ++ "\n" }

/-- Ends the program as a result says. -/
def finish (t : Terminal) : Except Fault Unit → Exit
  | .ok () => t.succeed
  | .error f => t.fail f

end Terminal

end SubtitleQueue.Console
