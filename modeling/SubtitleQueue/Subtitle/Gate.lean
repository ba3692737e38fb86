import SubtitleQueue.Subtitle.Srt
import SubtitleQueue.Files.Disk
import SubtitleQueue.Settings.Basic
import SubtitleQueue.Text.Utf8
import SubtitleQueue.Failure

/-!
The quality gate for subtitle files, and reading subtitle files. The gate refuses, in this
order, a missing file, a file over the size limit, text that is not UTF-8, a file without
cues, and then the first cue whose duration is out of range or that has a line over the
length limit. Reading is lenient: ill-formed bytes are replaced and the text is parsed. Both
warn of the blocks they skip.
-/

namespace SubtitleQueue.Subtitle

open Files Settings

/-- The first reason a cue fails the gate. -/
def cueProblem (g : GateLimits) (c : Cue) : Option String :=
  let d := c.duration
  if d < g.minDuration || d > g.maxDuration then
    some ("entry " ++ toString c.seq ++ " lasts " ++ toString d ++ " ms, allowed range is " ++
      toString g.minDuration ++ "..=" ++ toString g.maxDuration ++ " ms")
  else match (Text.lines c.text).find? (·.length > g.maxLineLength) with
    | some l => some ("entry " ++ toString c.seq ++ " has a " ++ toString l.length ++
        " character line, limit is " ++ toString g.maxLineLength)
    | none => none

/-- The text the gate reads from the file at `path`: a file that is missing, too large,
unreadable or not UTF-8 is refused before its cues are read. -/
def gateText (disk : Disk) (g : GateLimits) (path : String) : Except SubtitleError String := do
  let size ← match disk.size path with
    | .ok n => pure n
    | .error _ => throw (.notFound path)
  if size > g.maxFileSize then
    throw (.invalid ("file is " ++ toString size ++ " bytes, limit is " ++ toString g.maxFileSize))
  let bytes ← match disk.read path with
    | .ok b => pure b
    | .error e => throw (.invalid ("unreadable: " ++ e.message))
  match Text.decodeStrict bytes with
  | some t => pure t
  | none => throw (.invalid "content is not valid UTF-8")

/-- The warnings of the gate's reading of the file at `path`. -/
def gateWarnings (disk : Disk) (g : GateLimits) (path : String) : List String :=
  match gateText disk g path with
  | .ok text => (read text).warnings
  | .error _ => []

/-- Runs the gate on the file at `path`. -/
def checkFile (disk : Disk) (g : GateLimits) (path : String) : Except SubtitleError Unit := do
  let text ← gateText disk g path
  let cues := parse text
  if cues.isEmpty then throw (.invalid "no subtitle entries")
  match cues.findSome? (cueProblem g) with
  | some r => throw (.invalid r)
  | none => pure ()

/-- Reads the file at `path`. -/
def readFile (disk : Disk) (path : String) : Except Fault Reading :=
  if !disk.pathExists path then .error (SubtitleError.notFound path : Fault)
  else match disk.read path with
    | .ok bytes => .ok (read (Text.decodeLossy bytes))
    | .error e => .error ((Fault.msg e.message).within ("Failed to read subtitle file: " ++ path))

/-- Writes cues to `path`, making its folder first. -/
def writeFile (disk : Disk) (path : String) (cues : List Cue) : Except Fault Disk := do
  let disk ← match parent path with
    | some p =>
      match disk.createDirAll p with
      | .ok d => pure d
      | .error e => throw ((Fault.msg e.message).within ("Failed to create directory: " ++ p))
    | none => pure disk
  match disk.write path (render cues).toUTF8 with
  | .ok d => pure d
  | .error e => throw ((Fault.msg e.message).within ("Failed to write subtitle file: " ++ path))

end SubtitleQueue.Subtitle
