import SubtitleQueue.Queue.Pool
import SubtitleQueue.Service.Job

/-!
The pool service: the worker pool run over a store in memory, from its start until a
shutdown, with requests queued beforehand and timed events acting on the queue meanwhile.

Requests are executed by a real job, or, for titles starting with `!`, by a scripted act: one
that fails, panics, never ends, completes, skips, deletes its request, or completes and then
fails. The answer shows the pool's report, what the events gave, the requests with their logs,
which requests were started, the statuses reported, the backend's calls, and the library's
log. Lines about one request are set apart by request, since concurrent jobs interleave them.
-/

namespace SubtitleQueue.Service

open Store Process Queue

/-- The rest after exactly `n` lowercase hexadecimal digits. -/
def hexThen : Nat → List Char → Option (List Char)
  | 0, cs => some cs
  | n + 1, c :: cs => if c.isDigit || ('a' ≤ c && c ≤ 'f') then hexThen n cs else none
  | _ + 1, [] => none

/-- A random id at the front: groups of 8, 4, 4, 4 and 12 hexadecimal digits joined by dashes. -/
def randomIdPattern : Text.Pattern := fun cs => do
  let r ← hexThen 8 cs
  let r ← Time.charThen '-' r
  let r ← hexThen 4 r
  let r ← Time.charThen '-' r
  let r ← hexThen 4 r
  let r ← Time.charThen '-' r
  let r ← hexThen 4 r
  let r ← Time.charThen '-' r
  hexThen 12 r

/-- A text with every random id written as `<uuid>`. -/
def hideIds (s : String) : String :=
  String.ofList (Text.replaceAll randomIdPattern "<uuid>".toList s.toList)

/-- A message of a pool run as printed. -/
def poolText (s : String) : String := hideIds (scrubbed false s)

/-- Reads a request to queue: a clip from English to French unless it says otherwise, with its
subtitle under the folder. -/
def newRequest (j : Json) : Decode NewRequest := do
  let subtitle ← optional j "subtitle" Json.str?
  pure { title := ← textD j "title" "clip", source := ← textD j "source" "en",
         target := ← textD j "target" "fr", subtitle := subtitle.map underTemp,
         priority := ← flagD j "priority" false }

/-- An event acting on the queue while the pool runs. -/
structure PoolEvent where
  at_ : Nat
  action : String
  request : NewRequest := { title := "clip", source := "en", target := "fr" }
  id : Int := 0
  key : String := ""
  value : String := ""
  sql : String := ""
  deriving Inhabited

/-- Reads an event. -/
def poolEvent (j : Json) : Decode PoolEvent := do
  let action ← text j "do"
  let request ← newRequest ((j.field? "request").getD (.obj []))
  let id ← if action == "cancel" then integer j "id" else pure 0
  pure { at_ := ← naturalD j "after_ms" 1, action, request, id, key := ← textD j "key" "",
         value := ← textD j "value" "", sql := ← textD j "sql" "" }

/-- Reads the pool's timing. -/
def poolOptions (j : Json) : Decode PoolOptions := do
  let o := (j.field? "options").getD (.obj [])
  pure { activePoll := ← naturalD o "active_ms" 10, idlePoll := ← naturalD o "idle_ms" 20,
         shutdownTimeout := ← naturalD o "shutdown_ms" 50, claimAttempts := ← naturalD o "claim_attempts" 3 }

/-- Runs a store operation inside an execution; its failure escapes. -/
def storeStepOf {α : Type} (op : StoreOp α) : ExceptT Escape Run α := do
  match ← ExceptT.lift (Run.stored op) with
  | .ok v => pure v
  | .error e => throw (.failure e)

/-- The executor of a pool run: records that the request started, then acts as its title
says, or runs the real job. -/
def poolExecutor (svc : Job.Services) : Executor := fun request job => do
  modify fun w => { w with started := w.started.push request.id }
  match request.title with
  | "!error" => throw (.failure (Fault.msg "settings backend unavailable"))
  | "!panic" => throw (.panic (some "executor bug"))
  | "!panic_string" => throw (.panic (some ("executor bug " ++ toString request.id)))
  | "!panic_other" => throw (.panic none)
  | "!hang" =>
    let _ ← ExceptT.lift (Proc.waitUntil none fun _ => false)
    return .completed
  | "!complete" =>
    let _ ← storeStepOf (finishRequest request.id .completed)
    return .completed
  | "!skip" => return .skipped
  | "!vanish" =>
    let _ ← storeStepOf (deleteRequest request.id)
    throw (.failure (Fault.msg "request vanished"))
  | "!finish_then_error" =>
    let _ ← storeStepOf (finishRequest request.id .completed)
    throw (.failure (Fault.msg "late failure"))
  | _ => ExceptT.adapt Escape.ofFault (Job.execute svc request job)

/-- Acts on the queue for an event; the result. -/
def poolHappen (stop : Nat) (dbSettings : Bool) (e : PoolEvent) : Run Json := do
  match e.action with
  | "insert" => storeValue (insertRequest e.request) fun i => .int i.id
  | "wake" =>
    modify fun w => { w with woken := true }
    return .null
  | "cancel" =>
    let w ← get
    let (found, tokens) := Cancel.cancelRequest w.registry w.tokens e.id
    set { w with tokens }
    return .bool found
  | "set_setting" =>
    if dbSettings then storeValue (setSetting e.key e.value) fun () => .null
    else
      modify fun w => { w with settings := w.settings.set e.key e.value }
      return .null
  | "sql" => storeValue (StoreOp.batch e.sql) fun () => .str "ok"
  | "status" =>
    storeValue (listRequests none) fun rs =>
      .list (fun (r : Request) => .arr [.int r.id, .str r.status.name])
        (rs.mergeSort fun a b => decide (a.id ≤ b.id))
  | "shutdown" =>
    Run.cancelToken stop
    return .null
  | other => return failure "bad_input" ("unknown event '" ++ other ++ "'")

/-- How many rounds the pool may take. -/
def poolRounds : Nat := 1000000

/-- Starts the pool, acts on the queue at the events' times, and waits an hour at most for the
pool to stop; the events' results. -/
def drivePool (exec : Executor) (opts : PoolOptions) (dbSettings : Bool) (events : List PoolEvent) :
    Run (List (Nat × Json)) := do
  let stop ← Run.newToken
  let _ ← Proc.spawnTask fun _ => do
    let r ← runPool exec opts stop poolRounds
    modify fun w => { w with poolEnd := some r }
  let mut results : List (Nat × Json) := []
  for e in events do
    if (← Proc.now) < e.at_ then Proc.sleepUntil e.at_
    results := results ++ [(e.at_, ← poolHappen stop dbSettings e)]
  let deadline := (← Proc.now) + 3600000
  let _ ← Proc.waitUntil (some deadline) fun w => w.poolEnd.isSome
  return results

/-- The request a line of the log is about, when it starts with `Request <n>:` or
`Request <n> `. -/
def aboutRequest (message : String) : Option Int :=
  if message.startsWith "Request " then
    let rest := (message.drop 8).toString
    let digits := (rest.takeWhile Char.isDigit).toString
    let after := (rest.drop digits.length).toString
    if !digits.isEmpty && (after.startsWith ":" || after.startsWith " ") then
      digits.toNat?.map Int.ofNat
    else none
  else none

/-- The lines about each request, by request, in their order. -/
def linesByRequest (lines : List (Int × Log.LogLine)) : List (Int × List Log.LogLine) :=
  let ids := (lines.map (·.1)).eraseDups.mergeSort fun a b => decide (a ≤ b)
  ids.map fun id => (id, (lines.filter (·.1 == id)).map (·.2))

/-- A log line as `[level, message]`. -/
def poolLineJson (l : Log.LogLine) : Json := .arr [.str l.level.name, .str l.message]

/-- A request with its log, its job id hidden when random. -/
def pooledRequestJson (s : Store) (r : Request) : Json :=
  let logs := match ((ExceptT.run (entries r.id)).run s).1 with
    | .ok es => .list (fun (e : StoredEntry) =>
        .arr [.str e.level, .str (poolText e.message), .opt (fun d => .str (poolText d)) e.details]) es
    | .error f => faultJson f
  match requestJson { r with job := r.job.map hideIds } with
  | .obj fields => .obj (fields ++ [("logs", logs)])
  | other => other

/-- A pool run over a fresh store and folder. -/
def poolReply (j : Json) : Decode Json := do
  let setup ← backendSpec j
  let files ← fileMap j "files"
  let given ← textMap j "settings"
  let settings := if given.any (·.1 == "target_languages") then given
    else given ++ [("target_languages", defaultTargets)]
  let dbSettings ← flagD j "db_settings" false
  let requests ← listD j "requests" some
  let requests ← requests.mapM newRequest
  let stranded ← naturalD j "stranded" 0
  let preSql ← texts j "pre_sql"
  let opts ← poolOptions j
  let given ← listD j "events" some
  let given ← given.mapM poolEvent
  let shutdownAt ← naturalD j "shutdown_after_ms" 1000
  let shutdown : PoolEvent := { at_ := shutdownAt, action := "shutdown" }
  let events := (given ++ [shutdown]).mergeSort fun a b => a.at_ ≤ b.at_
  -- the folder
  let mut disk := freshDisk
  for (name, content) in files do
    disk := (disk.writeMaking (underTemp name) content).toOption.getD disk
  -- the store
  let store ← match openMemory with
    | .ok s => pure s
    | .error f => throw f.message
  let prepare : StoreOp Unit := do
    if dbSettings then let _ ← seedSettings settings
    for r in requests do
      let _ ← insertRequest r
    for i in [0:stranded] do
      let _ ← claimNext ("crashed-" ++ toString i) 1
    for q in preSql do
      tryCatch (StoreOp.batch q) fun _ => pure ()
  let (prepared, store) := (ExceptT.run prepare).run store
  if let .error f := prepared then throw f.message
  let svc : Job.Services :=
    { backend := setup.stack, extractor := .scripted {}, dataDir := some "/root/.local/share",
      tempDir := "/tmp" }
  let world : World :=
    { disk, store := { store with log := #[] }, log := store.log,
      settings := if dbSettings then .stored else .fixed settings,
      sink := .reporter true true, limiter := Concurrency.Limiter.make 1, meter := setup.meter }
  let (w, r) := runFrom world (drivePool (poolExecutor svc) opts dbSettings events)
  let results := r.getD []
  let read {α : Type} (op : StoreOp α) : Except Fault α := ((ExceptT.run op).run w.store).1
  let report := match w.poolEnd with
    | some (.ok p) => .obj [("recovered", .nat p.recovered), ("completed", .nat p.completed),
        ("failed", .nat p.failed), ("cancelled", .nat p.cancelled), ("skipped", .nat p.skipped),
        ("abandoned", .nat p.abandoned)]
    | some (.error f) => faultJson f
    | none => .str "did_not_stop"
  let requestsJson := match read (listRequests none) with
    | .ok rs => .list (pooledRequestJson w.store) (rs.mergeSort fun a b => decide (a.id ≤ b.id))
    | .error f => faultJson f
  let started := w.started.toList.mergeSort fun a b => decide (a ≤ b)
  let statuses := (w.events.toList.filterMap fun
      | .status id s => some (id, s.name)
      | _ => none).mergeSort fun a b => decide (a.1 < b.1 || (a.1 == b.1 && a.2 ≤ b.2))
  let shown := w.log.toList.map fun l =>
    ({ l with message := poolText l.message } : Log.LogLine)
  let general := shown.filter fun l => (aboutRequest l.message).isNone
  let about := shown.filterMap fun l => (aboutRequest l.message).map (·, l)
  pure (.obj [("report", report),
    ("events", .list (fun (t, v) => .arr [.nat t, v]) results),
    ("requests", requestsJson),
    ("started", .list Json.int started), ("started_count", .nat started.length),
    ("statuses", .list (fun (id, s) => .arr [.int id, .str s]) statuses),
    ("backend", setup.report w),
    ("log", .list poolLineJson general),
    ("request_log", .list (fun (id, ls) => .arr [.int id, .list poolLineJson ls]) (linesByRequest about))])

end SubtitleQueue.Service
