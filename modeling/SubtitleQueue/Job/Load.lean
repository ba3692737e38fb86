import SubtitleQueue.Queue.Act
import SubtitleQueue.Store.Media
import SubtitleQueue.Extraction.Source
import SubtitleQueue.Subtitle.Gate
import SubtitleQueue.Digest.Sha256
import SubtitleQueue.Backend.Stack
import SubtitleQueue.Subtitle.Naming

/-!
Loading the subtitle a job translates. A request's own subtitle file is used when it has
cues; otherwise, for a media item, a track embedded in the media file is extracted into a
private folder under the temporary folder, with a few attempts. Work without a media item
and without a usable file fails as a missing subtitle.

The private folder is held by the job from the moment it is made: the job removes it once the
extracted subtitle is checked, or as soon as extraction fails, and a job stopped from outside
removes it when it lets go of what it holds.
-/

namespace SubtitleQueue.Job

open Store Act

/-- What a job works with besides the shared state. -/
structure Services where
  backend : Backend.Stack
  extractor : Extraction.Extractor
  /-- The user's data folder, if there is one. -/
  dataDir : Option String
  /-- The temporary folder. -/
  tempDir : String
  deriving Inhabited

/-- A subtitle ready to translate. -/
structure Loaded where
  cues : List Subtitle.Cue
  /-- The file that was read. -/
  path : String
  /-- The path the names of the translation are made from. -/
  outputBase : String
  /-- The digest of the subtitle's SubRip text. -/
  digest : String
  /-- The private folder of an extracted track, removed once the subtitle is checked. -/
  scratch : Option String := none
  deriving Inhabited

/-- The digest of cues as SubRip text. -/
def digestOf (cues : List Subtitle.Cue) : String :=
  Digest.sha256Hex (Subtitle.render cues).toUTF8.data

/-- Writes a line to a job's log. -/
def say (log : Capture) (level : Log.Level) (message : String) : Act Unit :=
  ExceptT.lift (log.say level message)

/-- Fails as cancelled when the token is set. -/
def checkCancelled (cancel : Nat) : Act Unit := do
  if ← ExceptT.lift (Run.isCancelled cancel) then throw (JobError.cancelled : Fault)

/-- Reads the cues of a subtitle file, warning of the blocks skipped. -/
def readCues (path : String) : Act (Except Fault (List Subtitle.Cue)) := do
  match Subtitle.readFile (← get).disk path with
  | .ok r =>
    for w in r.warnings do note .warn w
    return .ok r.cues
  | .error f => return .error f

/-- Removes a folder and everything in it. -/
def removeFolder (path : String) : Act Unit :=
  modify fun w => { w with disk := w.disk.remove path }

/-- The folder extracted tracks go to. -/
def extractionBase (svc : Services) : String := Files.join (Files.join svc.tempDir "yastq") "extract"

/-- The name of the private folder in `base` for the extraction of request `id`. The system
names it `request-<id>-` and a random suffix, so that no other path names it; here the suffix
is `XXXX`, unless that name is taken, by something at or below the folder already or as a
folder on the way to one of the `places` the translation may be written to. Then the suffix
is a run of `X` longer than every name and every path in use. -/
def scratchName (disk : Files.Disk) (base : String) (id : Int) (places : List String) : String :=
  let used := places.flatMap Files.components
  let taken (n : String) : Bool :=
    let k := Files.Disk.key (Files.join base n)
    used.contains n || disk.nodes.any fun e => e.1 == k || e.1.startsWith (k ++ "/")
  let short := "request-" ++ toString id ++ "-XXXX"
  if taken short then
    let longest := (used.map String.length ++ disk.nodes.map (·.1.length)).foldl max 0
    "request-" ++ toString id ++ "-" ++ String.ofList (List.replicate (longest + 1) 'X')
  else short

/-- Makes the private folder and holds it. -/
def makeScratch (path : String) : Act Unit := do
  modify fun w => { w with disk := w.disk.put path .dir }
  ExceptT.lift (Run.hold (.scratch path))

/-- Removes the private folder and lets go of it. -/
def dropScratch (path : String) : Act Unit := do
  removeFolder path
  ExceptT.lift (Run.unhold (.scratch path))

/-- The outcome of one extraction attempt: the loaded subtitle, or why it failed and whether
to try again. -/
inductive Attempt where
  | loaded (l : Loaded)
  | failed (reason : String)
  | stop (reason : String)

/-- One attempt at extracting the track for the request's source language. -/
def attemptExtraction (svc : Services) (request : Request) (media : Media) (out : String)
    (log : Capture) : Act Attempt := do
  match ← ExceptT.lift (svc.extractor.tracks media.path) with
  | .error e => return .failed e.message
  | .ok tracks =>
    let some track := Extraction.select tracks request.source |
      return .stop ("no text subtitle stream in " ++ media.path)
    match ← ExceptT.lift (svc.extractor.extract media.path track.index out track.codec track.language) with
    | .ok (some path) =>
      match ← readCues path with
      | .ok cues =>
        if cues.isEmpty then return .failed ("stream " ++ toString track.index ++ " produced no entries")
        say log .info ("Extracted " ++ toString cues.length ++ " line(s) from stream " ++
          toString track.index)
        return .loaded { cues, path, outputBase := media.path, digest := digestOf cues, scratch := some out }
      | .error e => return .failed e.message
    | .ok none => return .failed ("stream " ++ toString track.index ++ " produced no output")
    | .error e => return .failed e.message

/-- What the attempts at an extraction need from where they run: whether the job was
stopped, one attempt, a warning, and giving up the private folder. -/
structure Attempts (m : Type → Type) where
  cancelled : m Bool
  attempt : m Attempt
  warn : String → m Unit
  discard : m Unit

/-- Attempts from number `n` of `total`, at most `left` more, after one that failed for `last`.
The first that loads a subtitle ends them; one that finds no text track ends them, failed
with its reason; when none is left they have failed with the reason of the last. A job found
stopped before an attempt ends them as cancelled. Every end that fails gives up the private
folder first. -/
def tryExtraction {m : Type → Type} [Monad m] [MonadExceptOf Fault m] (e : Attempts m)
    (total : Nat) : Nat → Nat → String → m Loaded
  | 0, _, last => do
    e.discard
    throwThe Fault (SubtitleError.extractionFailed last)
  | left + 1, n, _ => do
    if ← e.cancelled then
      e.discard
      throwThe Fault JobError.cancelled
    match ← e.attempt with
    | .loaded l => return l
    | .stop reason =>
      e.discard
      throwThe Fault (SubtitleError.extractionFailed reason)
    | .failed reason =>
      e.warn ("Extraction attempt " ++ toString n ++ "/" ++ toString total ++ " failed: " ++ reason)
      tryExtraction e total left (n + 1) reason

/-- The attempts of a job at extracting into the private folder `out`. -/
def jobAttempts (svc : Services) (request : Request) (media : Media) (out : String) (cancel : Nat)
    (log : Capture) : Attempts Act where
  cancelled := ExceptT.lift (Run.isCancelled cancel)
  attempt := attemptExtraction svc request media out log
  warn := say log .warn
  discard := dropScratch out

/-- Extracts the embedded track for the request's source language into a private folder, with
at most `max retries 1` attempts. -/
def extractEmbedded (svc : Services) (request : Request) (media : Media) (retries : Nat)
    (cancel : Nat) (log : Capture) : Act Loaded := do
  let base := extractionBase svc
  match (← get).disk.createDirAll base with
  | .ok disk => modify fun w => { w with disk }
  | .error e => throw ((Fault.msg e.message).within ("Failed to create extraction directory: " ++ base))
  let places := Subtitle.outputCandidates svc.dataDir svc.tempDir media.path request.target
  let out := Files.join base (scratchName (← get).disk base request.id places)
  makeScratch out
  let attempts := max retries 1
  tryExtraction (jobAttempts svc request media out cancel log) attempts attempts 1 "no attempt made"

/-- Loads the subtitle to translate: the request's file, or the track inside its media
file. -/
def loadSubtitles (svc : Services) (request : Request) (media : Option Media) (retries : Nat)
    (cancel : Nat) (log : Capture) : Act Loaded := do
  if let some path := request.subtitle then
    match ← readCues path with
    | .ok cues =>
      if !cues.isEmpty then
        return { cues, path, outputBase := path, digest := digestOf cues }
      say log .warn (path ++ " has no subtitle entries")
    | .error e => say log .warn ("Cannot use " ++ path ++ ": " ++ e.headline)
  let some m := media |
    throw (SubtitleError.notFound (request.subtitle.getD request.title) : Fault)
  say log .info "Falling back to embedded subtitles"
  extractEmbedded svc request m retries cancel log

end SubtitleQueue.Job
