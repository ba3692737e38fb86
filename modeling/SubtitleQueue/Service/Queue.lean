import SubtitleQueue.Queue.Manager
import SubtitleQueue.Store.Open
import SubtitleQueue.Store.Settings
import SubtitleQueue.Service.Backends
import SubtitleQueue.Service.Files
import SubtitleQueue.Service.Records
import SubtitleQueue.Service.Settings

/-!
The queue service: steps over a request manager and its store, held in memory, with settings
given in place. Each step answers its result, the requests in the store by id, and the
cancellation tokens registered so far.
-/

namespace SubtitleQueue.Service

open Store Queue

/-- A media kind field. -/
def mediaKind (j : Json) (key : String) : Decode MediaKind :=
  required j key fun v => v.str?.bind MediaKind.ofName?

/-- An optional media kind field. -/
def mediaKind? (j : Json) (key : String) : Decode (Option MediaKind) :=
  optional j key fun v => v.str?.bind MediaKind.ofName?

/-- A request status field. -/
def requestStatus (j : Json) (key : String) : Decode RequestStatus :=
  required j key fun v => v.str?.bind RequestStatus.ofName?

/-- A percentage that fits in a byte. -/
def percentField (j : Json) (key : String) : Decode Nat := do
  let p ← natural j key
  if p > 255 then throw ("field '" ++ key ++ "' is out of range")
  pure p

/-- What the queue steps share: the world of the manager, and the tokens registered, by
request. -/
structure QueueBench where
  world : World
  tokens : List (Int × Nat) := []
  deriving Inhabited

/-- Runs a step of the manager and answers its result. -/
def actStep {α : Type} (b : QueueBench) (a : Act α) (enc : α → Json) : QueueBench × Json :=
  match runFrom b.world a.run with
  | (w, some (.ok v)) => ({ b with world := w }, .obj [("ok", enc v)])
  | (w, some (.error f)) => ({ b with world := w }, faultJson f)
  | (w, none) => ({ b with world := w }, failure "panic" "the step did not finish")

/-- Runs an operation on the store and answers its result. -/
def storeStep {α : Type} (b : QueueBench) (op : StoreOp α) (enc : α → Json) : QueueBench × Json :=
  actStep b (Act.store op) enc

/-- A media reference given by `media_id` and `media_type`. -/
def mediaRef (j : Json) : Decode (Int × MediaKind) := do
  pure (← integer j "media_id", ← mediaKind j "media_type")

/-- One queue step; the state after it and its result. -/
def queueStep (b : QueueBench) (j : Json) : Decode (QueueBench × Json) := do
  let op ← text j "op"
  match op with
  | "setting" =>
    let key ← text j "key"
    let value ← text j "value"
    pure ({ b with world := { b.world with settings := b.world.settings.set key value } },
      .obj [("ok", .null)])
  | "file" =>
    let name ← text j "name"
    let content ← withDefault j "content" ByteArray.empty bytes?
    match b.world.disk.write (underTemp name) content with
    | .ok d => pure ({ b with world := { b.world with disk := d } }, .obj [("ok", .null)])
    | .error e => pure (b, plainFailure e.message)
  | "rmfile" =>
    let name ← text j "name"
    match b.world.disk.removeFile (underTemp name) with
    | .ok d => pure ({ b with world := { b.world with disk := d } }, .obj [("ok", .bool true)])
    | .error _ => pure (b, .obj [("ok", .bool false)])
  | "add_media" =>
    let kind ← mediaKind j "type"
    let title ← textD j "title" "Media"
    let path ← textD j "path" "$DIR/movie.mkv"
    let priority ← flagD j "priority" false
    pure (storeStep b (insertMedia kind title path priority) Json.int)
  | "create" =>
    let source ← text j "source"
    let target ← text j "target"
    let mid ← optional j "media_id" Json.int?
    let media ← match mid with
      | some id => pure (some (id, ← mediaKind j "media_type"))
      | none => pure none
    let title ← textD j "title" ""
    let subtitle ← optional j "subtitle" Json.str?
    pure (actStep b (create { media, title, source, target, subtitle })
      insertedJson)
  | "insert" =>
    let source ← text j "source"
    let target ← text j "target"
    let mediaId ← optional j "media_id" Json.int?
    let mediaKind ← mediaKind? j "media_type"
    let title ← textD j "title" "t"
    let subtitle ← optional j "subtitle" Json.str?
    let priority ← flagD j "priority" false
    let req : NewRequest :=
      { mediaId := mediaId, mediaKind, title, source, target, subtitle, priority }
    pure (storeStep b (insertRequest req) insertedJson)
  | "cancel" => pure (actStep b (cancel (← integer j "id")) Json.bool)
  | "retry" => pure (actStep b (retry (← integer j "id")) insertedJson)
  | "remove" => pure (actStep b (remove (← integer j "id")) Json.bool)
  | "retry_failed" => pure (actStep b retryFailed Json.nat)
  | "set_priority" =>
    let (id, kind) ← mediaRef j
    let p ← required j "priority" Json.bool?
    pure (actStep b (setPriority id kind p) Json.nat)
  | "refresh_priority" =>
    let (id, kind) ← mediaRef j
    pure (actStep b (refreshPriority id kind) Json.nat)
  | "raw_media_priority" =>
    let (id, kind) ← mediaRef j
    let p ← required j "priority" Json.bool?
    pure (storeStep b (setMediaPriority id kind p) Json.bool)
  | "logs" => pure (actStep b (logs (← integer j "id")) (Json.list entryJson))
  | "append_log" =>
    let id ← integer j "id"
    let message ← text j "message"
    let level ← textD j "level" "info"
    let details ← optional j "details" Json.str?
    pure (storeStep b (appendEntries id [{ level, message, details }]) fun () => .null)
  | "queue_missing" =>
    let (id, kind) ← mediaRef j
    pure (actStep b (queueMissing id kind) (Json.list insertedJson))
  | "claim" =>
    let job ← textD j "job" "job"
    let attempts ← naturalD j "attempts" 5
    pure (storeStep b (claimNext job attempts) (Json.opt requestJson))
  | "begin" =>
    let id ← integer j "id"
    let job ← textD j "job" "job"
    pure (storeStep b (beginExecution id job) requestJson)
  | "finish" =>
    let id ← integer j "id"
    let status ← requestStatus j "status"
    pure (storeStep b (finishRequest id status) Json.bool)
  | "reset_in_progress" => pure (storeStep b resetInProgress Json.nat)
  | "reset_to_pending" => pure (storeStep b (resetToPending (← integer j "id")) Json.bool)
  | "progress" =>
    let id ← integer j "id"
    let p ← percentField j "percent"
    pure (storeStep b (updateProgress id p) fun () => .null)
  | "delete" => pure (storeStep b (deleteRequest (← integer j "id")) Json.bool)
  | "get" => pure (storeStep b (getRequest (← integer j "id")) (Json.opt requestJson))
  | "list" =>
    let status ← optional j "status" fun v => v.str?.bind RequestStatus.ofName?
    pure (storeStep b (listRequests status) (Json.list requestJson))
  | "for_media" =>
    let (id, kind) ← mediaRef j
    pure (storeStep b (requestsForMedia id kind) (Json.list fun r => .int r.id))
  | "media_state" =>
    let (id, kind) ← mediaRef j
    pure (actStep b (updateState id kind) fun s => .str s.name)
  | "get_media" =>
    let (id, kind) ← mediaRef j
    pure (storeStep b (getMedia id kind) (Json.opt mediaJson))
  | "list_media" => pure (storeStep b listMedia (Json.list mediaJson))
  | "register" =>
    let id ← integer j "id"
    let w := b.world
    let (t, ts) := w.tokens.fresh
    let (_, r) := w.registry.register id t
    pure ({ b with world := { w with tokens := ts, registry := r }, tokens := b.tokens ++ [(id, t)] },
      .obj [("ok", .null)])
  | "record_stats" =>
    let lang ← text j "lang"
    let lines ← integer j "lines"
    let chars ← integer j "chars"
    pure (storeStep b (recordStatistics lang lines chars) fun () => .null)
  | "stats" =>
    pure (storeStep b (do return (← totals, ← languageTotals)) fun (t, ls) => totalsJson t ls)
  | "active_count" => pure (storeStep b activeCount Json.int)
  | "db_setting" =>
    let key ← text j "key"
    let value ← optional j "value" Json.str?
    pure (storeStep b (do
      if let some v := value then setSetting key v
      getSetting key) (Json.opt .str))
  | "seed" =>
    let values ← textMap j "values"
    pure (storeStep b (seedSettings values) Json.nat)
  | "sql" =>
    let sql ← text j "sql"
    pure (storeStep b (StoreOp.batch sql) fun () => .str "ok")
  | other => throw ("unknown queue op '" ++ other ++ "'")

/-- The requests in the store as `[id, status, priority, progress]`, by id; none when they
cannot be read. -/
def requestSnapshot (w : World) : Json :=
  match (ExceptT.run (listRequests none)).run w.store with
  | (.ok rs, _) =>
    .list (fun (r : Request) => .arr [.int r.id, .str r.status.name, .bool r.priority, .int r.progress])
      (rs.mergeSort fun a b => decide (a.id ≤ b.id))
  | (.error _, _) => .arr []

/-- Queue steps over a fresh store in memory. -/
def queueReply (j : Json) : Decode Json := do
  let settings ← textMap j "settings"
  let ops ← listD j "ops" some
  let store ← match openMemory with
    | .ok s => pure s
    | .error f => throw f.message
  let world : World := { disk := freshDisk, store, settings := .fixed settings }
  let mut b : QueueBench := { world }
  let mut steps : List Json := []
  for op in ops do
    let (b', r) ← queueStep b op
    b := b'
    steps := steps ++ [.obj [("result", r), ("requests", requestSnapshot b.world),
      ("tokens", .list (fun (id, t) => .arr [.int id, .bool (b.world.tokens.isCancelled t)]) b.tokens)]]
  pure (.obj [("steps", .arr steps)])

end SubtitleQueue.Service
