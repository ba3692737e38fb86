import SubtitleQueue.Console.Grammar
import SubtitleQueue.Console.Setup
import SubtitleQueue.Queue.Manager
import SubtitleQueue.Store.Statistics
import SubtitleQueue.Settings.Basic

/-!
The commands that look at the queue or change it, as the program prints them. A command runs
over the queue's shared state, prints lines and may fail; what it printed before a failure
stays printed.

Requests are listed newest first as `id  status  progress%  [* ]source -> target  title`,
media items by id as `id  kind  state  [* ]title`, where the star marks priority. Settings are
listed in the order of the known keys.
-/

namespace SubtitleQueue.Console

open Store Queue Files

/-- A command's work: it runs over the queue's shared state, prints lines, and may fail. -/
abbrev Work := ExceptT Fault (StateT (Array String) Run)

namespace Work

/-- A step of the queue, as part of a command. -/
def act {α : Type} (a : Act α) : Work α := ExceptT.mk (StateT.lift a.run)

/-- An operation on the store, as part of a command. -/
def store {α : Type} (op : StoreOp α) : Work α := act (Act.store op)

/-- Writes a line to the library's log. -/
def note (level : Log.Level) (message : String) : Work Unit := act (Act.note level message)

/-- Prints a line. -/
def say (line : String) : Work Unit := modifyThe (Array String) (·.push line)

/-- Fails with a message. -/
def refuse {α : Type} (message : String) : Work α := throw (Fault.msg message)

end Work

/-- A text right-aligned in a column of `width` characters. -/
def alignRight (width : Nat) (s : String) : String :=
  String.ofList (List.replicate (width - s.length) ' ') ++ s

/-- A text left-aligned in a column of `width` characters. -/
def alignLeft (width : Nat) (s : String) : String :=
  s ++ String.ofList (List.replicate (width - s.length) ' ')

/-- The star of priority work. -/
def priorityMark (priority : Bool) : String := if priority then "* " else ""

/-- A request as the status list shows it. -/
def requestLine (r : Request) : String :=
  alignRight 5 (toString r.id) ++ "  " ++ alignLeft 11 r.status.name ++ " " ++
    alignRight 3 (toString r.progress) ++ "%  " ++ priorityMark r.priority ++ r.source ++ " -> " ++
    r.target ++ "  " ++ r.title

/-- A media item as the media list shows it. -/
def mediaLine (m : Media) : String :=
  alignRight 5 (toString m.id) ++ "  " ++ alignLeft 7 m.kind.name ++ " " ++ alignLeft 11 m.state.name ++
    " " ++ priorityMark m.priority ++ m.title

/-- A log entry of a request as printed: its time, level and message, and its details
indented below. -/
def entryLines (e : StoredEntry) : List String :=
  (e.createdAt ++ " [" ++ e.level ++ "] " ++ e.message) :: (e.details.map ("    " ++ ·)).toList

/-- Lists the requests, of one status or all. -/
def showStatus (only : Option RequestStatus) : Work Unit := do
  let rs ← Work.store (listRequests only)
  if rs.isEmpty then Work.say "No requests"
  else rs.forM fun r => Work.say (requestLine r)

/-- The canonical path of an existing file, or a failure saying what was not found. -/
def existingPath (h : Host) (what path : String) : Work String := do
  match h.canonical (← getThe World).disk path with
  | .ok p => pure p
  | .error e => throw ((Fault.msg e.message).within (what ++ " not found: " ++ path))

/-- Queues a translation of a subtitle file or of a media item. Without a media item, a blank
title becomes the subtitle's path. -/
def enqueue (h : Host) (o : EnqueueOrder) : Work Unit := do
  let subtitle ← match o.subtitle with
    | some p => some <$> existingPath h "Subtitle file" p
    | none => pure none
  let title := match subtitle, Text.trim o.title with
    | some p, "" => if o.mediaId.isNone then p else ""
    | _, t => t
  let outcome ← Work.act (create
    { media := o.mediaId.map (·, o.mediaKind), title, source := o.source, target := o.target, subtitle })
  match outcome with
  | .created id => Work.say ("Queued request " ++ toString id)
  | .existing id => Work.say ("Request " ++ toString id ++ " already covers this translation")

/-- Says how many requests were queued. -/
def sayQueued (n : Nat) : Work Unit := Work.say ("Queued " ++ toString n ++ " request(s)")

/-- Registers a media file, titled after its file name unless a title is given, and queues its
missing translations when asked. -/
def addMedia (h : Host) (path : String) (kind : MediaKind) (title : Option String) (priority queue : Bool) :
    Work Unit := do
  let file ← existingPath h "Media file" path
  let title ← match title, fileStem file with
    | some t, _ => pure t
    | none, some stem => pure stem
    | none, none => Work.refuse ("Cannot derive a title from " ++ file)
  let id ← Work.store (insertMedia kind title file priority)
  Work.say ("Registered " ++ kind.name ++ " " ++ toString id ++ " (" ++ title ++ ")")
  if queue then sayQueued (← Work.act (queueMissing id kind)).length

/-- Carries out a media command. -/
def mediaOrder (h : Host) : MediaOrder → Work Unit
  | .add path kind title priority queue => addMedia h path kind title priority queue
  | .priority id kind enabled => do
    let n ← Work.act (setPriority id kind enabled)
    Work.say ("Updated " ++ toString n ++ " active request(s)")
  | .queue id kind => do sayQueued (← Work.act (queueMissing id kind)).length
  | .list => do (← Work.store listMedia).forM fun m => Work.say (mediaLine m)

/-- Carries out a settings command. -/
def settingsOrder : SettingsOrder → Work Unit
  | .get (some key) => do
    match ← Work.store ((← getThe World).settings.get key) with
    | some v => Work.say v
    | none => Work.refuse ("Setting '" ++ key ++ "' is not set")
  | .get none => do
    let found ← Work.store ((← getThe World).settings.getMany Settings.allKeys)
    Settings.allKeys.forM fun k =>
      match found.find? (·.1 == k) with
      | some (_, v) => Work.say (k ++ " = " ++ v)
      | none => pure ()
  | .set key value => do
    Work.store (setSetting key value)
    Work.say (key ++ " = " ++ value)

/-- Prints the translation totals, then the lines per target language in order. -/
def showStatistics : Work Unit := do
  let t ← Work.store totals
  Work.say (toString t.files ++ " file(s), " ++ toString t.lines ++ " line(s), " ++
    toString t.characters ++ " character(s) translated")
  let languages ← Work.store languageTotals
  let sorted := languages.mergeSort fun a b => decide (a.1 < b.1 || (a.1 == b.1 && a.2 ≤ b.2))
  sorted.forM fun (l, n) => Work.say ("  " ++ l ++ ": " ++ toString n)

/-- Cancels a request; a request that is not pending is only reported, since a running one
belongs to the process running the queue. -/
def cancelOrder (id : Int) : Work Unit := do
  if ← Work.act (cancel id) then Work.say ("Request " ++ toString id ++ " cancelled")
  else if !(← getThe World).registry.isRegistered id then
    Work.note .warn ("Request " ++ toString id ++ " is not pending; stop the running queue to interrupt it")

/-- Carries out every command but running the queue and writing completions. -/
def perform (h : Host) : Order → Work Unit
  | .enqueue o => enqueue h o
  | .status only => showStatus only
  | .logs id => do (← Work.act (logs id)).forM fun e => (entryLines e).forM Work.say
  | .retry id => do
    let outcome ← Work.act (retry id)
    Work.say ("Request " ++ toString id ++ " queued as " ++ toString outcome.id)
  | .retryFailed => do sayQueued (← Work.act retryFailed)
  | .cancel id => cancelOrder id
  | .remove id => do
    let _ ← Work.act (remove id)
    Work.say ("Request " ++ toString id ++ " removed")
  | .media o => mediaOrder h o
  | .settings o => settingsOrder o
  | .stats => showStatistics
  | .run _ | .completions _ => pure ()

end SubtitleQueue.Console
