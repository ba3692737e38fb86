import SubtitleQueue.Queue.MediaState
import SubtitleQueue.Store.Journal
import SubtitleQueue.Progress.Report

/-!
The life of a request outside the workers: making it, cancelling, retrying and removing it,
setting the priority of a media item's work, and queueing every missing translation of a
media item.

A new request is checked first: both languages must be known and differ, work without a
media item needs a subtitle file, and a media item named must exist. Its priority is always
its media item's. A pending request is cancelled at once; a running one is signalled through
its cancellation token, and its job records the final status. Only a finished request can be
retried or removed; retrying replaces it with a fresh pending request (or with the live one
that covers the same work).
-/

namespace SubtitleQueue.Queue

open Store Act

/-- What to translate. -/
structure Params where
  media : Option (Int × MediaKind) := none
  /-- Display title; blank takes the media item's. -/
  title : String := ""
  source : String
  target : String
  /-- The subtitle to translate; none extracts the track inside the media file. -/
  subtitle : Option String := none
  deriving Repr, Inhabited

/-- The request with an id, which must exist. -/
def existing (id : Int) : Act Request := do
  match ← store (getRequest id) with
  | some r => pure r
  | none => refuse (.notFound id)

/-- The refusal of a media item that does not exist. -/
def noSuchMedia {α : Type} (id : Int) (kind : MediaKind) : Act α :=
  refuse (.invalidRequest (kind.name ++ " " ++ toString id ++ " does not exist"))

/-- The media item named, which must exist. -/
def mediaFor (media : Option (Int × MediaKind)) : Act (Option Media) := do
  match media with
  | none => pure none
  | some (id, kind) =>
    match ← store (getMedia id kind) with
    | some m => pure (some m)
    | none => noSuchMedia id kind

/-- A known language tag, or the request is refused. -/
def checkedLanguage (code : String) : Act String :=
  match Language.validate code with
  | .ok c => pure c
  | .error e => refuse (.invalidRequest e.message)

/-- Queues a translation unless a live request already covers it. -/
def create (p : Params) : Act Inserted := do
  let source ← checkedLanguage p.source
  let target ← checkedLanguage p.target
  if Language.sameLanguage source target then
    refuse (.invalidRequest ("Source and target language are both " ++ source))
  if p.media.isNone && p.subtitle.isNone then
    refuse (.invalidRequest "An ad-hoc request needs a subtitle file")
  let media ← mediaFor p.media
  let title := match media, Text.trim p.title with
    | some m, "" => m.title
    | _, t => t
  let outcome ← store (insertRequest
    { mediaId := p.media.map (·.1), mediaKind := p.media.map (·.2), title, source, target,
      subtitle := p.subtitle, priority := effectivePriority media })
  if let .created id := outcome then
    note .info ("Queued translation request " ++ toString id)
    wake
  refreshState p.media
  return outcome

/-- Cancels a request: a pending one is finished as cancelled, a running one is signalled.
Whether anything was cancelled. -/
def cancel (id : Int) : Act Bool := do
  let request ← existing id
  match request.status with
  | .pending =>
    let cancelled ← store (finishRequest id .cancelled)
    -- a worker may have claimed it in the meantime
    let _ ← signal id
    if cancelled then
      store (appendEntries id [{ level := "info", message := "Cancelled before it started" }])
      ExceptT.lift (Progress.emitStatus id .cancelled)
      refreshState request.media?
    return cancelled
  | .inProgress => signal id
  | _ => return false
where
  /-- Sets the token of a registered request; whether it was registered. -/
  signal (id : Int) : Act Bool :=
    modifyGet fun w =>
      let (found, tokens) := Cancel.cancelRequest w.registry w.tokens id
      (found, { w with tokens })

/-- Queues a finished request again, as a fresh pending request that replaces it, or as the
live request that covers the same work. -/
def retry (id : Int) : Act Inserted := do
  let request ← existing id
  if !request.status.isTerminal then
    refuse (.invalidTransition id request.status.name RequestStatus.pending.name)
  let media ← mediaFor request.media?
  let outcome ← store (insertRequest
    { mediaId := request.mediaId, mediaKind := request.mediaKind, title := request.title,
      source := request.source, target := request.target, subtitle := request.subtitle,
      priority := effectivePriority media })
  match ← attempt (store (deleteRequest id)) with
  | .ok _ => pure ()
  | .error f => throw (f.within ("Failed to remove request " ++ toString id ++ " after retrying it"))
  note .info ("Request " ++ toString id ++ " retried as " ++ toString outcome.id)
  wake
  refreshState request.media?
  return outcome

/-- Retries every failed request; how many new requests were queued. A request that cannot be
retried is logged and passed over. -/
def retryFailed : Act Nat := do
  let failed ← store (listRequests (some .failed))
  let mut queued := 0
  for r in failed do
    match ← attempt (retry r.id) with
    | .ok (.created _) => queued := queued + 1
    | .ok (.existing _) => pure ()
    | .error e => note .warn ("Could not retry request " ++ toString r.id ++ ": " ++ e.message)
  if queued > 0 then note .info ("Retry sweep queued " ++ toString queued ++ " request(s)")
  return queued

/-- Copies a media item's priority into its live requests; how many there were. -/
def refreshPriority (id : Int) (kind : MediaKind) : Act Nat := do
  let media ← store (getMedia id kind)
  let updated ← store (updateRequestPriority id kind (effectivePriority media))
  wake
  return updated

/-- Sets a media item's priority and copies it into its live requests. -/
def setPriority (id : Int) (kind : MediaKind) (priority : Bool) : Act Nat := do
  if !(← store (setMediaPriority id kind priority)) then noSuchMedia id kind
  refreshPriority id kind

/-- Deletes a finished request and its log. -/
def remove (id : Int) : Act Bool := do
  let request ← existing id
  if !request.status.isTerminal then
    refuse (.invalidRequest ("Request " ++ toString id ++ " is " ++ request.status.name ++
      "; cancel it before removing it"))
  store (deleteRequest id)

/-- The log of a request, oldest first. -/
def logs (id : Int) : Act (List StoredEntry) := do
  let _ ← existing id
  store (entries id)

/-- Queues a request for each configured target language that has no subtitle beside the
media file yet. The source is the first configured source language with a subtitle on disk,
which is then translated; failing that, the first configured source language, from the track
inside the media file. -/
def queueMissing (id : Int) (kind : MediaKind) : Act (List Inserted) := do
  let some media ← store (getMedia id kind) | noSuchMedia id kind
  let settings := (← get).settings
  let targets ← store (settings.languages "target_languages")
  let sources ← store (settings.languages "source_languages")
  let some first := sources.head? |
    refuse (.invalidRequest "No source languages are configured")
  let found := Subtitle.discover (← get).disk media.path
  let onDisk := languagesOnDisk (← get).disk media.path
  let external := sources.findSome? fun s =>
    (found.find? fun f => f.language.any (Language.sameLanguage · s.code)).map fun f => (s.code, f.path)
  let (source, subtitle) := match external with
    | some (code, path) => (code, some path)
    | none => (first.code, none)
  let mut outcomes := []
  for t in targets do
    if presentOnDisk onDisk t.code || Language.sameLanguage t.code source then continue
    outcomes := outcomes ++ [← create
      { media := some (id, kind), title := media.title, source, target := t.code, subtitle }]
  refreshState (some (id, kind))
  return outcomes

end SubtitleQueue.Queue
