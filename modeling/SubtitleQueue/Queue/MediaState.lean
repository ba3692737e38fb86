import SubtitleQueue.Queue.Act
import SubtitleQueue.Store.Media
import SubtitleQueue.Subtitle.Naming
import SubtitleQueue.Language.Code

/-!
How far the translations of a media item are, worked out from its requests and the subtitles
beside its file, and stored with the item.

A request in progress makes the item in progress; else a pending one makes it pending. With
no live request, the item is complete when every configured target language has a subtitle
on disk, or, with no target languages configured, when its latest finished request
completed; it has failed when its latest finished request failed; otherwise it has not
started. Working the state out never makes requests, so it can be done any number of times.
-/

namespace SubtitleQueue.Queue

open Store Act

/-- The three-letter codes of the languages that have a subtitle beside a media file. -/
def languagesOnDisk (disk : Files.Disk) (path : String) : List String :=
  (Subtitle.discover disk path).filterMap fun f =>
    f.language.bind fun l => (Language.normalize l).toOption

/-- Whether a language has a subtitle among those on disk. -/
def presentOnDisk (onDisk : List String) (code : String) : Bool :=
  match Language.normalize code with
  | .ok c => onDisk.contains c
  | .error _ => false

/-- The state of a media item given its requests, oldest first, its target languages and the
languages on disk. -/
def mediaStateOf (requests : List Request) (targets : List Settings.Language)
    (onDisk : List String) : MediaState :=
  let allPresent := !targets.isEmpty && targets.all fun t => presentOnDisk onDisk t.code
  let lastFinished := requests.reverse.find? (·.status.isTerminal)
  if requests.any (·.status == .inProgress) then .inProgress
  else if requests.any (·.status == .pending) then .pending
  else if allPresent then .complete
  else if targets.isEmpty && lastFinished.any (·.status == .completed) then .complete
  else if lastFinished.any (·.status == .failed) then .failed
  else .notStarted

/-- Works out and stores the state of a media item; an item that is gone has not started. -/
def updateState (id : Int) (kind : MediaKind) : Act MediaState := do
  let some media ← store (getMedia id kind) | return .notStarted
  let requests ← store (requestsForMedia id kind)
  let targets ← store ((← get).settings.languages "target_languages")
  let state := mediaStateOf requests targets (languagesOnDisk (← get).disk media.path)
  store (setMediaState id kind state)
  return state

/-- Works out the state of a media item, if there is one, logging a failure instead of
passing it on. -/
def refreshState (media : Option (Int × MediaKind)) : Act Unit := do
  if let some (id, kind) := media then
    if let .error e ← attempt (updateState id kind) then
      note .warn ("Failed to update the state of " ++ kind.name ++ " " ++ toString id ++ ": " ++
        e.message)

end SubtitleQueue.Queue
