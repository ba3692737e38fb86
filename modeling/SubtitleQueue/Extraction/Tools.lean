import SubtitleQueue.World
import SubtitleQueue.Extraction.Track
import SubtitleQueue.Json.Schema
import SubtitleQueue.Text.Utf8

/-!
Embedded subtitles through the media tools: a prober that prints the subtitle streams of a
media file as JSON, and a converter that writes one stream as a SubRip file. Each tool runs
with a time limit and is stopped when it runs longer; a tool that is not installed cannot be
run at all.

The prober's streams are read leniently: a stream without a whole-number index has index 0,
one without a codec name has codec `unknown`, and its language and title come from its tags
when they are text. Empty output, or output without a list of streams, lists no streams.

A stream in a bitmap codec is not converted. A converter that fails is reported with the lines
of its error output that explain the failure, without the banner and the stream listing it
prints first, and a conversion that leaves no file or an empty one gives no file.
-/

namespace SubtitleQueue.Extraction

open Files Process

/-- How a tool's run ended: its exit code and its two output streams. -/
structure Ran where
  code : Int
  stdout : ByteArray := ByteArray.empty
  stderr : ByteArray := ByteArray.empty
  deriving Inhabited

/-- A tool that has started: how long it runs, in milliseconds, and what it does and gives
when it ends. -/
structure Launch where
  takes : Nat
  finish : Run Ran
  deriving Inhabited

/-- A tool: started with its arguments it may act on the world at once, and then runs for a
while. -/
abbrev Program := List String → Run Launch

/-- The media tools, none for one that is not installed, and their time limits in
milliseconds. -/
structure Tools where
  prober : Option Program
  converter : Option Program
  probeTimeout : Nat
  extractTimeout : Nat
  deriving Inhabited

/-- Runs a tool with a time limit. It fails when the tool cannot be run or runs out of time;
the time it was given is reported in whole seconds. -/
def runTool (name : String) (tool : Option Program) (args : List String) (limit : Nat) :
    Run (Except Fault Ran) := do
  match tool with
  | none => return .error (Fault.msg ("Failed to execute " ++ name ++ ": " ++ IoError.notFound.message))
  | some p =>
    let launch ← p args
    if launch.takes ≥ limit then
      Proc.sleep limit
      return .error (Fault.msg (name ++ " timed out after " ++ toString (limit / 1000) ++ " seconds"))
    Proc.sleep launch.takes
    return .ok (← launch.finish)

/-- A whole number that fits 64 bits, as it was written: not a fraction or an exponent. -/
def wholeWord? : Json → Option Nat
  | .num n => if n.isFloat then none else (n.toInt?).bind fun i => if i ≥ 0 then some i.toNat else none
  | _ => none

/-- A stream's track, read leniently. -/
def streamTrack (s : Json) : Track :=
  let tag (name : String) : Option String := ((s.field? "tags").bind (·.field? name)).bind Json.str?
  { index := ((s.field? "index").bind wholeWord?).getD 0,
    codec := ((s.field? "codec_name").bind Json.str?).getD "unknown",
    language := tag "language", title := tag "title" }

/-- The tracks in the prober's output. -/
def parseStreams (stdout : String) : Except Fault (List Track) :=
  if (Text.trim stdout).isEmpty then .ok []
  else match Json.Reader.documentOfText .any stdout with
    | .error p => .error ((Fault.msg p.text).within "Failed to parse ffprobe JSON output")
    | .ok j =>
      match j.field? "streams" with
      | some (.arr xs) => .ok (xs.map streamTrack)
      | _ => .ok []

/-- The beginnings of the converter's banner and stream listing lines. -/
def noisePrefixes : List String :=
  ["ffmpeg version", "built with", "configuration:", "lib", "Input #", "Metadata:", "Duration:",
   "Chapter", "Stream #", "title", "DURATION", "Output #", "Stream mapping:", "Press [q]"]

/-- The lines of the converter's error output that explain a failure. -/
def explainFailure (stderr : String) : String :=
  let meaningful := (Text.lines stderr).map Text.trim |>.filter fun l =>
    !l.isEmpty && !noisePrefixes.any (l.startsWith ·)
  if meaningful.isEmpty then "unknown ffmpeg error (stderr was empty after filtering)"
  else "\n".intercalate meaningful

/-- The name of the file a stream becomes: the media file's stem, the stream's index and its
language if known. -/
def convertedName (media : String) (index : Nat) (language : Option String) : String :=
  let stem := (fileStem media).getD "embedded"
  match language with
  | some l => stem ++ "." ++ toString index ++ "." ++ l ++ ".srt"
  | none => stem ++ "." ++ toString index ++ ".srt"

namespace Tools

/-- The subtitle streams of a media file, as the prober lists them. -/
def tracks (t : Tools) (media : String) : Run (Except Fault (List Track)) := do
  if !(← get).disk.pathExists media then
    return .error (Fault.msg ("Video file not found: " ++ Text.quoted media))
  let args := ["-v", "quiet", "-print_format", "json", "-show_streams", "-select_streams", "s", media]
  match ← runTool "ffprobe" t.prober args t.probeTimeout with
  | .error e => return .error e
  | .ok ran =>
    if ran.code != 0 then
      let stderr := Text.decodeLossy ran.stderr
      Run.note .error ("ffprobe failed: " ++ stderr)
      return .error (Fault.msg ("ffprobe command failed: " ++ stderr))
    return parseStreams (Text.decodeLossy ran.stdout)

/-- Converts a stream to a SubRip file in `outDir`; the file, if it has content. -/
def extract (t : Tools) (media : String) (index : Nat) (outDir codec : String)
    (language : Option String) : Run (Except Fault (Option String)) := do
  if bitmapCodecs.contains codec then
    Run.note .warn ("Stream " ++ toString index ++ " uses bitmap codec " ++ codec ++ ", cannot convert to SRT")
    return .ok none
  match (← get).disk.createDirAll outDir with
  | .error e =>
    return .error ((Fault.msg e.message).within ("Failed to create extraction directory: " ++ outDir))
  | .ok disk => modify fun w => { w with disk }
  let out := join outDir (convertedName media index language)
  let args := ["-y", "-i", media, "-map", "0:" ++ toString index, "-c:s", "srt", out]
  match ← runTool "ffmpeg" t.converter args t.extractTimeout with
  | .error e => return .error e
  | .ok ran =>
    if ran.code != 0 then
      let filtered := explainFailure (Text.decodeLossy ran.stderr)
      Run.note .error ("Subtitle extraction failed: " ++ filtered)
      return .error (Fault.msg ("ffmpeg extraction failed: " ++ filtered))
    let size := ((← get).disk.size out).toOption.getD 0
    if size == 0 then
      Run.note .warn ("Extracted stream " ++ toString index ++ " is empty")
      return .ok none
    return .ok (some out)

end Tools

end SubtitleQueue.Extraction
