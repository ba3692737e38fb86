import SubtitleQueue.Job.Load
import SubtitleQueue.Batch.Fallback
import SubtitleQueue.Repair.Run
import SubtitleQueue.Repair.Window
import SubtitleQueue.Concurrency.Acquire
import SubtitleQueue.Progress.Report
import SubtitleQueue.Progress.Tracker
import SubtitleQueue.Store.Statistics
import SubtitleQueue.Subtitle.Naming

/-!
The work of a job between its start and its final status. The job reads its settings once,
resizes the limiter from them, and waits for a slot (priority work first). It loads and
checks the subtitle, translates it line by line (each line with the context around it) or in
batches (lines a batch left out are retried in smaller chunks, and with deferred repair
repaired at the end), gives back the slot, and puts the translations into the cues, keeping
position tags and line breaks of the source. After tidying the cues it writes them beside
the source, or failing that in the data folder or the temporary folder, and counts the work
in the statistics.

Progress rises with the lines done and stays below 100 (below 95 while a repair may still
run) until the translation is written.
-/

namespace SubtitleQueue.Job

open Store Act Settings

/-- The cap of progress while translating. -/
def translatingCap : Nat := 99

/-- The cap of progress while a deferred repair may still run. -/
def repairingCap : Nat := 95

/-- The items of a list from index `lo` up to `hi`, as a slice takes them. A range that ends
before it starts, or past the end of the list, breaks the slice's assumption: it is refused
with the text of that panic. -/
def slice {α : Type} (xs : List α) (lo hi : Nat) : Except String (List α) :=
  if hi < lo then .error ("slice index starts at " ++ toString lo ++ " but ends at " ++ toString hi)
  else if xs.length < hi then
    .error ("range end index " ++ toString hi ++ " out of range for slice of length " ++
      toString xs.length)
  else .ok (xs.extract lo hi)

/-- The lines before `start` and from `stop` on that surround the lines `start` to `stop`: at
most `before` lines before and `after` lines after. The end of the lines after is `stop` plus
`after` as 64-bit words add, so a sum past the top wraps around and the slice refuses it. -/
def contextWindow (texts : List String) (start stop before after : Nat) :
    Except String (List String × List String) := do
  let stop := min stop texts.length
  let pre ← slice texts (start - before) (min start stop)
  let post ← slice texts stop (min (Repair.wordAdd stop after) texts.length)
  pure (pre, post)

/-- Takes the value of a step that fails only when an assumption of the program breaks: such a
failure stops the job as a panic. -/
def orPanic {α : Type} : Except String α → Act α
  | .ok a => pure a
  | .error m => throw ({ cause := .panic m } : Fault)

/-- A job's settings as the settings give them now. -/
def resolveSettings : Act JobSettings := do
  let values ← store ((← get).settings.getMany jobKeys)
  return JobSettings.ofLookup fun k => (values.find? (·.1 == k)).map (·.2)

/-- Reports progress of the request. -/
def report (request : Request) (percent : Nat) : Act Unit :=
  ExceptT.lift (Progress.emit request.id percent)

/-- Translates the lines one by one. -/
def translateLines (svc : Services) (request : Request) (texts : List String) (s : JobSettings)
    (cancel : Nat) (log : Capture) : Act Batch.Translations := do
  say log .info "Translating line by line"
  let mut tracker := Progress.Tracker.make texts.length translatingCap
  let mut done : Batch.Translations := []
  for (text, position) in texts.zipIdx do
    checkCancelled cancel
    if Text.isMeaningful text then
      let (before, after) ← orPanic (contextWindow texts position (position + 1) s.contextBefore s.contextAfter)
      let ask : Backend.Ask := { source := request.source, target := request.target, before, after }
      match ← ExceptT.lift (svc.backend.translate (some cancel) text ask) with
      | none => throw (JobError.cancelled : Fault)
      | some (.ok t) => done := done.put position t
      | some (.error e) => throw (JobError.backend e : Fault)
    let (percent, t) := tracker.advance (position + 1)
    tracker := t
    if let some p := percent then report request p
  return done

/-- Takes the result of a step that reports its failure as a job failure. -/
def jobStep {α : Type} (r : Run (Except JobError α)) : Act α := do
  match ← ExceptT.lift r with
  | .ok a => pure a
  | .error e => throw (e : Fault)

/-- Translates the lines in batches of at most the batch size, retrying left-out lines in
smaller chunks; with deferred repair, lines still missing are repaired at the end. -/
def translateBatches (svc : Services) (request : Request) (texts : List String) (s : JobSettings)
    (cancel : Nat) (log : Capture) : Act Batch.Translations := do
  let tr : Batch.Translator :=
    { backend := svc.backend, source := request.source, target := request.target, maxSplits := s.maxSplits }
  let items : List Batch.Item := texts.zipIdx.map fun (t, p) => (p, t)
  let cap := if s.deferredRepair then repairingCap else translatingCap
  let mut tracker := Progress.Tracker.make items.length cap
  let mut done : Batch.Translations := []
  let mut failed : List Repair.FailedLine := []
  let count := (items.length + s.maxBatchSize - 1) / s.maxBatchSize
  say log .info ("Translating in " ++ toString count ++ " batch(es) of up to " ++ toString s.maxBatchSize)
  for (batch, index) in (Batch.chunksOf s.maxBatchSize items).zipIdx do
    checkCancelled cancel
    let start := index * s.maxBatchSize
    let stop := start + batch.length
    let (pre, post) ← if s.batchContext then
        orPanic (contextWindow texts start stop s.batchContextBefore s.batchContextAfter)
      else pure ([], [])
    match ← ExceptT.lift (tr.translate batch pre post cancel log) with
    | .ok got => done := got.foldl (fun m (p, t) => m.put p t) done
    | .error (.batchExhausted n positions got) =>
      done := got.foldl (fun m (p, t) => m.put p t) done
      if !s.deferredRepair then
        say log .error ("Batch " ++ toString (index + 1) ++ " left " ++ toString n ++ " line(s) untranslated")
        throw (JobError.batchExhausted n positions [] : Fault)
      say log .warn ("Batch " ++ toString (index + 1) ++ " left " ++ toString n ++ " line(s) for deferred repair")
      failed := failed ++ positions.map fun p =>
        { position := p, text := texts.getD p "", batchIndex := index }
    | .error e => throw (e : Fault)
    let (percent, t) := tracker.advance stop
    tracker := t
    if let some p := percent then report request p
  if !failed.isEmpty then
    let plan := Repair.plan failed items s.repairRadius
    let repaired ← jobStep (Repair.execute plan tr s.maxBatchSize s.repairRetries cancel log)
    done := repaired.foldl (fun m (p, t) => m.put p t) done
  return done

/-- Tidies translated cues as the settings ask: overlaps fixed, lines rewrapped, formatting
stripped. -/
def tidy (cues : List Subtitle.Cue) (s : JobSettings) (log : Capture) : Act (List Subtitle.Cue) := do
  let mut cues := cues
  if s.fixOverlaps then
    let (fixed, cs) := Subtitle.fixOverlaps cues
    cues := cs
    if fixed > 0 then say log .info ("Fixed " ++ toString fixed ++ " overlapping subtitle(s)")
  if s.maxLineLength > 0 then
    cues := cues.map fun c => { c with text := Text.rewrap c.text s.maxLineLength }
  if s.stripFormatting then
    cues := cues.map fun c => { c with text := Text.stripFormatting c.text }
  return cues

/-- Writes the translation to the first place that takes it; the path written. -/
def writeOutput (svc : Services) (cues : List Subtitle.Cue) (base target : String) (log : Capture) :
    Act String := do
  let candidates := Subtitle.outputCandidates svc.dataDir svc.tempDir base target
  for path in candidates do
    match Subtitle.writeFile (← get).disk path cues with
    | .ok disk =>
      modify fun w => { w with disk }
      say log .info ("Wrote " ++ path)
      return path
    | .error e => say log .warn ("Cannot write " ++ path ++ ": " ++ e.message)
  throw (Fault.msg ("Failed to write the translated subtitle to any of " ++
    toString candidates.length ++ " location(s)"))

/-- The media item of a request, read again. -/
def currentMedia (request : Request) : Act (Option Media) :=
  match request.media? with
  | some (id, kind) => store (getMedia id kind)
  | none => pure none

/-- Loads, checks and translates the subtitle while holding a slot: the subtitle, the texts
sent and the translations. -/
def translateHeld (svc : Services) (request : Request) (media : Option Media) (s : JobSettings)
    (cancel : Nat) (log : Capture) : Act (Loaded × List String × Batch.Translations) := do
  let loaded ← loadSubtitles svc request media s.extractionRetries cancel log
  let disk := (← get).disk
  let checked ← match s.gate with
    | some g => do
      for w in Subtitle.gateWarnings disk g loaded.path do note .warn w
      pure (Subtitle.checkFile disk g loaded.path)
    | none => pure (.ok ())
  if let some dir := loaded.scratch then dropScratch dir
  if let .error e := checked then throw (JobError.rejected e.message : Fault)
  checkCancelled cancel
  let texts := loaded.cues.map fun c => if s.removeMarkup then Text.removeMarkup c.text else c.text
  say log .info ("Loaded " ++ toString texts.length ++ " subtitle line(s)")
  let batched := s.useBatches && svc.backend.supportsBatch
  let done ← if batched then translateBatches svc request texts s cancel log
    else translateLines svc request texts s cancel log
  return (loaded, texts, done)

/-- Translates a request's subtitle and writes the translation: its path and the digest of
the source subtitle. -/
def translate (svc : Services) (request : Request) (media : Option Media) (cancel : Nat)
    (log : Capture) : Act (String × String) := do
  let s ← resolveSettings
  match ← attempt (store ((← get).settings.get "max_concurrent_jobs")) with
  | .ok v => let _ ← ExceptT.lift (Concurrency.refreshLimit v)
  | .error e => note .warn ("Keeping current concurrency limit: " ++ e.message)
  let priority := effectivePriority (← currentMedia request)
  jobStep (Concurrency.acquire priority cancel)
  let held ← attempt (translateHeld svc request media s cancel log)
  ExceptT.lift Concurrency.releaseSlot
  let (loaded, texts, done) ← match held with
    | .ok v => pure v
    | .error e => throw e
  let output := loaded.cues.zipIdx.map fun (c, i) =>
    match done.get? i with
    | some t => { c with text := Text.keepLineBreaks (texts.getD i "") (Text.keepPositionTag c.text t) }
    | none => { c with text := texts.getD i "" }
  let output ← tidy output s log
  let path ← writeOutput svc output loaded.outputBase request.target log
  report request 100
  let characters := done.foldl (fun n (p, _) => n + (texts.getD p "").length) 0
  if let .error e ← attempt (store (recordStatistics request.target done.length characters)) then
    note .warn ("Failed to update statistics: " ++ e.message)
  return (path, loaded.digest)

end SubtitleQueue.Job
