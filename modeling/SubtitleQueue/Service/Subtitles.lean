import SubtitleQueue.Subtitle.Srt
import SubtitleQueue.Subtitle.Gate
import SubtitleQueue.Subtitle.Naming
import SubtitleQueue.Service.Files
import SubtitleQueue.Service.Errors
import SubtitleQueue.Service.Request
import SubtitleQueue.Service.Reply

/-!
Service answers about cues and SubRip text.
-/

namespace SubtitleQueue.Service

open Subtitle

/-- A cue as `{seq, start, end, text}`. -/
def cueJson (c : Cue) : Json :=
  .obj [("seq", .nat c.seq), ("start", .nat c.start), ("end", .nat c.stop), ("text", .str c.text)]

/-- Reads a cue written as `cueJson` writes it. -/
def cue? (j : Json) : Option Cue := do
  pure { seq := ← (j.field? "seq").bind Json.nat?, start := ← (j.field? "start").bind Json.nat?,
         stop := ← (j.field? "end").bind Json.nat?, text := ← (j.field? "text").bind Json.str? }

/-- Cues as a JSON list. -/
def cuesJson (cs : List Cue) : Json := .arr (cs.map cueJson)

/-- The cues of a SubRip text. -/
def parseSrtReply (j : Json) : Decode Json := do
  let content ← text j "content"
  pure (.obj [("entries", cuesJson (parse content))])

/-- The SubRip text of cues. -/
def renderSrtReply (j : Json) : Decode Json := do
  let cs ← listD j "entries" cue?
  pure (.obj [("text", .str (render cs))])

/-- A time in SubRip form. -/
def timestampReply (j : Json) : Decode Json := do
  let ms ← natural j "ms"
  pure (.obj [("text", .str (Cue.timestamp ms))])

/-- A checked cue, its duration and its written form. -/
def newCueReply (j : Json) : Decode Json := do
  let seq ← natural j "seq"
  let start ← natural j "start"
  let stop ← natural j "end"
  let t ← text j "text"
  pure <| match Cue.make seq start stop t with
    | .ok c => .obj [("entry", cueJson c), ("duration", .nat c.duration), ("display", .str c.render)]
    | .error e => plainFailure e.message

/-- Cues sorted with overlaps removed. -/
def fixOverlapsReply (j : Json) : Decode Json := do
  let cs ← listD j "entries" cue?
  let (n, fixed) := fixOverlaps cs
  pure (.obj [("fixed", .nat n), ("entries", cuesJson fixed)])

/-- Reads gate limits, each with its default. -/
def gateLimits (j : Json) : Decode Settings.GateLimits := do
  let o := (j.field? "options").getD (.obj [])
  pure { maxFileSize := ← naturalD o "max_file_size_bytes" 2097152
         maxLineLength := ← naturalD o "max_line_length" 500
         minDuration := ← naturalD o "min_duration_ms" 500
         maxDuration := ← naturalD o "max_duration_ms" 10000 }

/-- Runs the quality gate on a file and reads it. -/
def validateReply (j : Json) : Decode Json := do
  let g ← gateLimits j
  let content ← optional j "content" bytes?
  let name ← textD j "name" (if content.isSome then "sub.srt" else "missing.srt")
  let path := underTemp name
  let disk ← match content with
    | some b => match freshDisk.writeMaking path b with
      | .ok d => pure d
      | .error e => throw e.message
    | none => pure freshDisk
  let valid := match checkFile disk g path with
    | .ok () => Json.bool true
    | .error e => failure ("Subtitle." ++ subtitleKind e) e.message
  let read := match readFile disk path with
    | .ok r => cuesJson r.cues
    | .error f => faultJson f
  pure (.obj [("valid", valid), ("read", read)])

/-- Subtitle files found beside a media file. -/
def discoverReply (j : Json) : Decode Json := do
  let files ← texts j "files"
  let dirs ← texts j "dirs"
  let media ← text j "media"
  let disk ← dirs.foldlM (fun d n => match d.createDirAll (underTemp n) with
    | .ok d => pure d
    | .error e => throw e.message) freshDisk
  let disk ← files.foldlM (fun d n => match d.writeMaking (underTemp n) ByteArray.empty with
    | .ok d => pure d
    | .error e => throw e.message) disk
  let found := discover disk (underTemp media)
  pure (.obj [("found", .list (fun f => .arr [.str f.path, .opt .str f.language]) found)])

/-- The output name of a translation and its place beside the source. -/
def outputPathsReply (j : Json) : Decode Json := do
  let source ← text j "source"
  let target ← text j "target"
  let name := outputName source target
  pure (.obj [("beside", .opt (fun p => .str (Files.join p name)) (Files.parent source)),
    ("file_name", .str name), ("same_name", .bool true)])

end SubtitleQueue.Service
