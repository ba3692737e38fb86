import SubtitleQueue.Extraction.Source
import SubtitleQueue.Service.Backends
import SubtitleQueue.Service.Files
import SubtitleQueue.Service.Errors
import SubtitleQueue.Service.Request
import SubtitleQueue.Json.Render

/-!
The media tools service: listing and converting the subtitle streams of a media file with
stand-in tools. Each stand-in writes a line naming itself and its arguments to a call log,
waits as long as it is told, then gives its output (the converter copies its content to the
output path, its last argument) and exits with its code. A tool may also be missing.

The answer lists the tracks found, what each conversion gave (the file and its text, nothing,
or the failure), and the call log.
-/

namespace SubtitleQueue.Service

open Extraction Files

/-- The call log of the stand-in tools. -/
def callLog : String := underTemp ".calls"

/-- What a stand-in tool does: its exit code, its output (for the converter, what it copies
to the output path), its error output, and how long it waits first, in milliseconds. -/
structure StandIn where
  code : Int := 0
  output : Option ByteArray := none
  errors : Option ByteArray := none
  waits : Nat := 0
  deriving Inhabited

/-- The digits at the front of a list and the rest. -/
def digitRun (cs : List Char) : List Char × List Char := (cs.takeWhile Char.isDigit, cs.dropWhile Char.isDigit)

/-- A waiting time as the `sleep` command reads it: seconds with an optional fraction and an
optional unit (`s`, `m`, `h` or `d`), in milliseconds; zero when it cannot be read. -/
def waitMillis (t : String) : Nat :=
  let (whole, rest) := digitRun (Text.trim t).toList
  let (frac, rest) := match rest with
    | '.' :: more => digitRun more
    | _ => ([], rest)
  let unit : Option Nat := match rest with
    | [] | ['s'] => some 1000
    | ['m'] => some 60000
    | ['h'] => some 3600000
    | ['d'] => some 86400000
    | _ => none
  match unit with
  | none => 0
  | some u =>
    if whole.isEmpty && frac.isEmpty then 0
    else
      let w := (String.ofList whole).toNat?.getD 0
      let f := (String.ofList frac).toNat?.getD 0
      w * u + f * u / Nat.pow 10 frac.length

/-- Bytes a stand-in writes: text, `{"hex": …}`, or any other value as its JSON text. -/
def writtenBytes (j : Json) : ByteArray := (bytes? j).getD (Json.render j).toUTF8

/-- Reads what a stand-in does; `outputKey` names its output. -/
def standIn (j : Json) (outputKey : String) : Decode StandIn := do
  let waits ← optional j "sleep" Json.str?
  pure { code := ← withDefault j "code" 0 Json.int?, output := (j.field? outputKey).map writtenBytes,
         errors := (j.field? "stderr").map writtenBytes, waits := (waits.map waitMillis).getD 0 }

/-- Appends a line to the call log. -/
def logCall (line : String) : Run Unit :=
  modify fun w =>
    let before := (w.disk.read callLog).toOption.getD ByteArray.empty
    { w with disk := (w.disk.writeMaking callLog (before ++ (line ++ "\n").toUTF8)).toOption.getD w.disk }

/-- A stand-in as a tool: it logs its call, waits, and then ends as it was told; a converter
first copies its content to its last argument. -/
def standInProgram (name : String) (s : StandIn) (copies : Bool) : Program := fun args => do
  logCall (name ++ " " ++ " ".intercalate args)
  return { takes := s.waits, finish := do
    if copies then
      if let (some data, some out) := (s.output, args.getLast?) then
        modify fun w => { w with disk := (w.disk.write out data).toOption.getD w.disk }
    return { code := s.code, stdout := if copies then ByteArray.empty else s.output.getD ByteArray.empty,
             stderr := s.errors.getD ByteArray.empty } }

/-- A track as `{index, codec, language, title}`. -/
def trackRecord (t : Track) : Json :=
  .obj [("index", .nat t.index), ("codec", .str t.codec), ("language", .opt .str t.language),
    ("title", .opt .str t.title)]

/-- A conversion to make. -/
structure Conversion where
  index : Nat
  codec : String
  language : Option String
  outDir : String

/-- Reads a conversion. -/
def conversion (j : Json) : Decode Conversion := do
  pure { index := ← naturalD j "index" 0, codec := ← textD j "codec" "subrip",
         language := ← optional j "language" Json.str?, outDir := ← textD j "out_dir" "out" }

/-- Lists and converts the streams of a media file with stand-in tools. -/
def toolsReply (j : Json) : Decode Json := do
  let spec := (j.field? "ffmpeg").getD (.obj [])
  let probe ← standIn ((spec.field? "probe").getD (.obj [])) "stdout"
  let convert ← standIn ((spec.field? "extract").getD (.obj [])) "content"
  let missing ← texts spec "missing"
  let probeTimeout ← naturalD spec "probe_timeout_ms" 60000
  let extractTimeout ← naturalD spec "extract_timeout_ms" 120000
  let media := underTemp (← textD j "media" "movie.mkv")
  let create ← flagD j "create_media" true
  let conversions ← (← listD j "extract" some).mapM conversion
  let mut disk := freshDisk
  for name in ["ffprobe", "ffmpeg"] do
    if !missing.contains name then
      disk := (disk.writeMaking (underTemp ("bin/" ++ name)) "#!/bin/sh\n".toUTF8).toOption.getD disk
  if create then
    disk := (disk.writeMaking media ByteArray.empty).toOption.getD disk
  let tools : Tools :=
    { prober := if missing.contains "ffprobe" then none else some (standInProgram "ffprobe" probe false),
      converter := if missing.contains "ffmpeg" then none else some (standInProgram "ffmpeg" convert true),
      probeTimeout, extractTimeout }
  let ex : Extractor := .tools tools
  let (w, r) := runFrom { disk } do
    let tracks ← ex.tracks media
    let mut made := []
    for c in conversions do
      made := made ++ [← ex.extract media c.index (underTemp c.outDir) c.codec c.language]
    return (tracks, made)
  let (tracks, made) := r.getD (.ok [], [])
  let madeJson := made.map fun
    | .ok (some p) =>
      .obj [("path", .str p), ("content", .str (Text.decodeLossy ((w.disk.read p).toOption.getD ByteArray.empty)))]
    | .ok none => .null
    | .error f => faultJson f
  let calls := Text.lines (Text.decodeLossy ((w.disk.read callLog).toOption.getD ByteArray.empty))
  pure (.obj [("tracks", match tracks with
      | .ok ts => .list trackRecord ts
      | .error f => faultJson f),
    ("extract", .arr madeJson), ("calls", .list Json.str calls)])

end SubtitleQueue.Service
