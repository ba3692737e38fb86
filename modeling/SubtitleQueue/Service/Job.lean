import SubtitleQueue.Job.Execute
import SubtitleQueue.Store.Open
import SubtitleQueue.Service.Backends
import SubtitleQueue.Service.Queue
import SubtitleQueue.Service.Records
import SubtitleQueue.Service.Media
import SubtitleQueue.Service.Reporter

/-!
The job service: one request translated by a job, over a store in memory and a folder of
files, while timed events act on the queue from outside. The answer shows how the job ended
and everything it left behind: the request and its log, the files it wrote, the statistics,
the progress it reported, the media item, the backend's and the extractor's calls, and the
limiter.
-/

namespace SubtitleQueue.Service

open Store Process

/-- The target languages when the request does not give them. -/
def defaultTargets : String := "[\x7b\"name\":\"French\",\"code\":\"fr\"\x7d]"

/-- File contents by name. -/
def fileMap (j : Json) (key : String) : Decode (List (String × ByteArray)) :=
  match j.field? key with
  | none => pure []
  | some (.obj fs) => fs.mapM fun (k, v) =>
      match bytes? v with
      | some b => pure (k, b)
      | none => throw ("field '" ++ key ++ "' has the wrong type")
  | some _ => throw ("field '" ++ key ++ "' has the wrong type")

/-- An event acting on the queue while the job runs. -/
structure Happening where
  at_ : Nat
  action : String
  key : String := ""
  value : String := ""
  sql : String := ""
  deriving Inhabited

/-- Reads an event. -/
def happening (j : Json) : Decode Happening := do
  pure { at_ := ← naturalD j "after_ms" 1, action := ← text j "do", key := ← textD j "key" "",
         value := ← textD j "value" "", sql := ← textD j "sql" "" }

/-- Reads the scripted extractor. -/
def scriptOf (j : Json) : Decode Extraction.Script := do
  pure { tracks := ← listD j "tracks" track?, listError := ← optional j "list_error" Json.str?,
         content := ← optional j "content" bytes?, noOutput := ← flagD j "no_output" false }

/-- The limiter as `[max, available, waiting]`. -/
def limiterJson (w : World) : Json :=
  .arr [.nat w.limiter.max, .int w.limiter.available, .nat w.limiter.waiting]

/-- Runs an operation on the store and answers its value or its failure. -/
def storeValue {α : Type} (op : StoreOp α) (enc : α → Json) : Run Json := do
  match ← Run.stored op with
  | .ok v => return enc v
  | .error f => return faultJson f

/-- Acts on the queue for an event; the result. -/
def happen (id : Int) (dbSettings : Bool) (held : Nat) (h : Happening) : Run Json := do
  match h.action with
  | "cancel" =>
    let w ← get
    let (found, tokens) := Cancel.cancelRequest w.registry w.tokens id
    set { w with tokens }
    return .bool found
  | "finish_failed" => storeValue (finishRequest id .failed) Json.bool
  | "finish_cancelled" => storeValue (finishRequest id .cancelled) Json.bool
  | "finish_completed" => storeValue (finishRequest id .completed) Json.bool
  | "delete_request" => storeValue (deleteRequest id) Json.bool
  | "release_held" =>
    let mine ← Proc.self
    if (← get).holds.contains (mine, .slot) && held > 0 then
      Concurrency.releaseSlot
      return .bool true
    return .bool false
  | "set_setting" =>
    if dbSettings then storeValue (setSetting h.key h.value) fun () => .null
    else
      modify fun w => { w with settings := w.settings.set h.key h.value }
      return .null
  | "limiter" => return limiterJson (← get)
  | "sql" => storeValue (StoreOp.batch h.sql) fun () => .str "ok"
  | other => return failure "bad_input" ("unknown event '" ++ other ++ "'")

/-- What the driver's task of a job run gives back: the events' results, the limiter before
held slots are let go, and the job's outcome if it ended. -/
structure JobRun where
  events : List (Nat × Json)
  limiterAtEnd : Json
  outcome : Option (Except Fault Job.Outcome)
  deriving Inhabited

/-- Holds slots, starts the job, acts on the queue at the events' times, and waits for the
job (an hour at most after the last event, then stops it); lets the held slots go. -/
def driveJob (svc : Job.Services) (claimed : Request) (dbSettings : Bool) (held : Nat)
    (events : List Happening) : Run JobRun := do
  for _ in [0:held] do
    let tok ← Run.newToken
    let _ ← Concurrency.acquire false tok
  let job ← Proc.spawnTask fun me => do
    let r ← (Job.execute svc claimed "job-1").run
    modify fun w => { w with finished := w.finished ++ [(me, r)] }
  let mut results : List (Nat × Json) := []
  for h in events do
    Proc.sleepUntil h.at_
    results := results ++ [(h.at_, ← happen claimed.id dbSettings held h)]
  let deadline := (← Proc.now) + 3600000
  let ended ← Proc.waitUntil (some deadline) fun w => w.finished.any (·.1 == job)
  if !ended then Proc.abortTask job
  let w ← get
  let atEnd := limiterJson w
  let me ← Proc.self
  for _ in [0:held] do
    if (← get).holds.contains (me, .slot) then Concurrency.releaseSlot
  return { events := results, limiterAtEnd := atEnd,
           outcome := (w.finished.find? (·.1 == job)).map (·.2) }

/-- Writes the private extraction folder of the system's temporary folder as `$EXTRACT`. -/
def hideExtraction (s : String) : String := s.replace "/tmp/yastq/extract" "$EXTRACT"

/-- A message of a job run as printed: the HTTP client's wording hidden, and, when the job
does not run in a folder of its own, the system's extraction folder. -/
def scrubbed (isolated : Bool) (s : String) : String :=
  hideTransport (if isolated then s else hideExtraction s)

/-- The files under the temporary folder with their contents. -/
def filesOf (d : Files.Disk) : List (String × ByteArray) := d.filesUnder tempRoot

/-- A job run over a fresh store and folder. -/
def jobReply (j : Json) : Decode Json := do
  let setup ← backendSpec j
  let files ← fileMap j "files"
  let given ← textMap j "settings"
  let settings := if given.any (·.1 == "target_languages") then given
    else given ++ [("target_languages", defaultTargets)]
  let media ← optional j "media" some
  let req ← need j "request"
  let script ← match j.field? "extractor" with
    | some e => scriptOf e
    | none => pure {}
  let capacity ← naturalD j "limiter" 1
  let pre ← texts j "pre"
  let held ← naturalD j "held_slots" 0
  let during ← listD j "during" some
  let timed ← during.mapM happening
  let cancelAt ← optional j "cancel_after_ms" Json.nat?
  let all := timed ++ (cancelAt.map fun t => ({ at_ := t, action := "cancel" } : Happening)).toList
  let events := all.mergeSort fun a b => a.at_ ≤ b.at_
  let preSql ← texts j "pre_sql"
  let dbSettings ← flagD j "db_settings" false
  let isolated ← flagD j "sandbox" false
  let mkdirs ← texts j "mkdirs"
  -- the folder
  let mut disk := freshDisk
  for d in mkdirs do
    disk := (disk.createDirAll (underTemp d)).toOption.getD disk
  for (name, content) in files do
    disk := (disk.writeMaking (underTemp name) content).toOption.getD disk
  let mediaFile ← match media with
    | some m => pure (some (underTemp (← textD m "file" "movie.mkv")))
    | none => pure none
  if let some m := media then
    if (← flagD m "create" true) && !files.any (fun (n, _) => underTemp n == mediaFile.getD "") then
      disk := (disk.writeMaking (mediaFile.getD "") ByteArray.empty).toOption.getD disk
  -- the store
  let store ← match openMemory with
    | .ok s => pure s
    | .error f => throw f.message
  let mediaKind ← match media with
    | some m => pure (some ((← mediaKind? m "type").getD .movie))
    | none => pure none
  let mediaTitle ← match media with
    | some m => textD m "title" "Movie"
    | none => pure "Movie"
  let mediaPriority ← match media with
    | some m => flagD m "priority" false
    | none => pure false
  let title ← textD req "title" "clip"
  let source ← textD req "source" "en"
  let target ← textD req "target" "fr"
  let subtitle ← optional req "subtitle" Json.str?
  let prepare : StoreOp (Option Request × List Json) := do
    if dbSettings then let _ ← seedSettings settings
    let mediaId ← match mediaKind, mediaFile with
      | some k, some f => pure (some (← insertMedia k mediaTitle f mediaPriority))
      | _, _ => pure none
    let r : NewRequest :=
      { mediaId := mediaId, mediaKind, title, source, target, subtitle := subtitle.map underTemp }
    let id := (← insertRequest r).id
    let claimed ← claimNext "job-1" 5
    for p in pre do
      match p with
      | "finish_failed" => let _ ← finishRequest id .failed
      | "finish_completed" => let _ ← finishRequest id .completed
      | "finish_cancelled" => let _ ← finishRequest id .cancelled
      | "delete_request" => let _ ← deleteRequest id
      | "delete_media" => let _ ← StoreOp.execute "DELETE FROM media" []
      | _ => pure ()
    let mut sqlResults := []
    for q in preSql do
      let r ← tryCatch (do StoreOp.batch q; pure (Json.str "ok")) (fun f => pure (faultJson f))
      sqlResults := sqlResults ++ [r]
    return (claimed, sqlResults)
  let (prepared, store) := (ExceptT.run prepare).run { store with log := #[] }
  let (claimed, sqlResults) ← match prepared with
    | .ok (some c, rs) => pure (c, rs)
    | .ok (none, _) => throw "the request could not be claimed"
    | .error f => throw f.message
  let dataDir := if isolated then "$DIR/home/.local/share" else "/root/.local/share"
  let svc : Job.Services :=
    { backend := setup.stack, extractor := .scripted script, dataDir := some dataDir,
      tempDir := if isolated then "$DIR/tmp" else "/tmp" }
  let world : World :=
    { disk, store, settings := if dbSettings then .stored else .fixed settings,
      sink := .recorder, limiter := Concurrency.Limiter.make capacity, meter := setup.meter }
  let before := filesOf disk
  let (w, r) := runFrom world (driveJob svc claimed dbSettings held events)
  let run := r.getD { events := [], limiterAtEnd := limiterJson w, outcome := none }
  let outcome := match run.outcome with
    | some (.ok o) => Json.str o.name
    | some (.error f) => failure (causeKind f.cause) (scrubbed isolated f.message)
    | none => .str "did_not_finish"
  let read {α : Type} (op : StoreOp α) : Option α := ((ExceptT.run op).run w.store).1.toOption
  let id := claimed.id
  let outputs := (filesOf w.disk).filter (fun (p, data) =>
      !before.any fun (q, old) => q == p && old.data == data.data)
    |>.mergeSort (fun a b => decide (a.1 ≤ b.1))
  let progress := w.events.toList.filterMap fun
    | .progress _ p => some (Json.nat p)
    | _ => none
  let statuses := w.events.toList.filterMap fun
    | .status _ s => some (Json.str s.name)
    | _ => none
  let totals := (read Store.totals).getD {}
  let languages := ((read languageTotals).getD []).mergeSort fun a b => decide (a.1 ≤ b.1)
  let mediaRecord := match mediaKind with
    | some k => (read (getMedia 1 k)).bind fun x => x
    | none => none
  let fields : List (String × Json) :=
    [("outcome", outcome),
     ("request", .opt requestJson ((read (getRequest id)).bind fun x => x)),
     ("logs", .list (fun (e : StoredEntry) => .arr [.str e.level, .str (scrubbed isolated e.message)])
        ((read (entries id)).getD [])),
     ("outputs", .list (fun (p, data) => .arr [.str (relativeToTemp p), .str (Text.decodeLossy data)]) outputs),
     ("stats", .arr [.int totals.files, .int totals.lines, .int totals.characters]),
     ("languages", .list (fun (l, n) => .arr [.str l, .int n]) languages),
     ("progress", .arr progress), ("statuses", .arr statuses),
     ("media", .opt mediaJson mediaRecord),
     ("backend", setup.report w),
     ("extractor", .obj [("list_calls", .nat w.listings),
        ("extract_calls", .list (fun (i, c, l) => .arr [.nat i, .str c, .opt .str l]) w.extractions.toList)]),
     ("events", .list (fun (t, v) => .arr [.nat t, v]) run.events),
     ("limiter_at_end", run.limiterAtEnd),
     ("limiter_available", .int w.limiter.available), ("limiter_max", .nat w.limiter.max),
     ("registrations", .nat w.registry.size)]
  let extra := if preSql.isEmpty then [] else [("pre_sql", Json.arr sqlResults)]
  -- a job that panicked takes the whole answer with it
  match run.outcome with
  | some (.error { cause := .panic m, .. }) => pure (failure "panic" m)
  | _ => pure (.obj (fields ++ extra))

end SubtitleQueue.Service
