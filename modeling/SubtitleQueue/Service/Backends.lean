import SubtitleQueue.Process.Schedule
import SubtitleQueue.Repair.Run
import SubtitleQueue.Service.Errors
import SubtitleQueue.Service.Batches

/-!
Service answers that run backends: single calls and batches through a backend stack, batch
translation with splitting, repairs, and the usage meter on its own. Each runs as one task on
the queue's clock from a fresh state.
-/

namespace SubtitleQueue.Service

open Backend Process

/-- How many turns a run of tasks may take. -/
def turnBudget : Nat := 1000000

/-- Runs a computation from a state, with the tasks it starts, to its end. -/
def runFrom {α : Type} (w : World) (p : Run α) : World × Option α :=
  runMain turnBudget w World.stopTask p

/-- A backend failure as an answer; time stamps in its text are hidden. -/
def backendFailure (e : BackendError) : Json :=
  failure ("Provider." ++ backendKind e) (Time.hideStamps e.message)

/-- A job failure printed as itself; time stamps in its text are hidden. -/
def jobFailure (e : JobError) : Json :=
  match jobErrorJson e with
  | .obj fields => .obj (fields.map fun (k, v) =>
      if k == "message" then
        match v with
        | .str m => (k, .str (Time.hideStamps m))
        | v => (k, v)
      else (k, v))
  | j => j

/-- Reads a behaviour of the scripted backend. -/
def behavior? (j : Json) : Option Behavior :=
  match j with
  | .str "working" => some .working
  | .str "failing" => some .failing
  | .str "payment_required" => some .paymentRequired
  | .obj [("fail_first", n)] => n.nat?.map .failFirst
  | .obj [("omit", ps)] => (ps.arr?.bind (eachOf Json.nat?)).map .omit
  | .obj [("fail_chunks", ps)] => (ps.arr?.bind (eachOf Json.nat?)).map .failChunks
  | .obj [("slow", n)] => n.nat?.map .slow
  | _ => none

/-- A backend as a request describes it: the stack, the meter it starts with, and for a
generation server whether its port was closed. -/
structure Setup where
  stack : Stack
  meter : Option Meter
  server : Option Bool := none

/-- The address of the scripted generation server. -/
def serverUrl : String := "http://127.0.0.1:11434"

/-- Reads a generation server's backend from its provider settings: always metered and
retried, over the server or, for the `mock` type, the working scripted backend. -/
def serverSpec (b o : Json) : Decode Setup := do
  let kind ← textD o "type" "ollama"
  let endpoint := (← textD o "endpoint" serverUrl).replace "$SERVER" serverUrl
  let closed ← flagD b "closed" false
  let base : Base ← match kind with
    | "ollama" => pure (.remote (if closed then "http://127.0.0.1:9" else endpoint))
    | "mock" => pure (.mock {})
    | other => throw ("unknown variant '" ++ other ++ "'")
  let retry : Retry := { maxRetries := ← naturalD o "retry_count" 3, backoffMs := ← naturalD o "retry_backoff_ms" 1000 }
  let meter : Meter := { limit := ← optional o "character_quota" Json.nat?,
                         pauseMs := (← naturalD o "payment_pause_secs" 900) * 1000 }
  pure { stack := { base, retry := some retry, metered := true }, meter := some meter, server := some closed }

/-- Reads a backend. -/
def backendSpec (j : Json) : Decode Setup := do
  let b := (j.field? "backend").getD (.obj [])
  if let some o := b.field? "ollama" then return ← serverSpec b o
  let behavior ← withDefault b "behavior" .working behavior?
  let batches ← flagD b "batch" true
  let plain ← flagD b "plain" false
  let m : Mock := { behavior, batches }
  let retry ← match b.field? "retry" with
    | some r => pure (some { maxRetries := ← naturalD r "max_retries" 3, backoffMs := ← naturalD r "backoff_ms" 100 : Retry })
    | none => pure none
  let meter ← match b.field? "quota" with
    | some q => pure (some { limit := ← optional q "limit" Json.nat?, pauseMs := (← naturalD q "pause_secs" 60) * 1000 : Meter })
    | none => pure none
  pure { stack := { base := if plain then .plain m else .mock m, retry, metered := meter.isSome }, meter }

/-- What the backend has seen: for the scripted backend its calls, its batches and the
meter's count; for a generation server the requests that reached it and the meter's count. -/
def Setup.report (s : Setup) (w : World) : Json :=
  let used := Json.opt (fun m => .nat m.used) w.meter
  match s.server with
  | some closed => .obj [("requests", if closed then .null else .arr []), ("meter_used", used)]
  | none => .obj [("calls", .nat w.tally.calls), ("batch_calls", .list (.list .nat) w.tally.batchCalls),
      ("meter_used", used)]

/-- A backend failure as an answer: time stamps in its text are hidden, and the transport
failures of a generation server, whose text is the HTTP client's, carry none. -/
def Setup.failure (s : Setup) (e : BackendError) : Json :=
  match s.server, e with
  | some _, .requestFailed _ | some _, .connection _ | some _, .unreadableAnswer _ =>
    .obj [("error", .str ("Provider." ++ backendKind e)), ("message", .null)]
  | _, _ => backendFailure e

/-- Log lines as `[level, message]`. -/
def logJson (lines : List Log.LogLine) : Json :=
  .list (fun l => .arr [.str l.level.name, .str l.message]) lines

/-- A batch translated with splitting. -/
def translateReply (j : Json) : Decode Json := do
  let setup ← backendSpec j
  let stack := setup.stack
  let meter := setup.meter
  let xs ← items j "items"
  let source ← textD j "source" "en"
  let target ← textD j "target" "fr"
  let splits ← naturalD j "max_split" 3
  let tr : Batch.Translator := { backend := stack, source, target, maxSplits := Nat.max splits 1 }
  let pre ← texts j "pre"
  let post ← texts j "post"
  let cancelled ← flagD j "cancelled" false
  let stats ← flagD j "log_stats" false
  let (w, r) := runFrom { meter } do
    let tok ← Run.newToken
    if cancelled then Run.cancelToken tok
    let cap ← Run.newCapture none
    let r ← tr.translate xs pre post tok cap
    return (cap, r)
  let (cap, r) := r.getD (⟨0, none⟩, .error .cancelled)
  let lines := cap.lines w
  let result := match r with
    | .ok m => .obj [("translated", itemsJson m)]
    | .error e => jobFailure e
  let extra := if stats then [("log_len", Json.nat lines.length), ("log_empty", .bool lines.isEmpty)] else []
  pure (.obj ([("result", result), ("backend", setup.report w), ("log", logJson lines)] ++ extra))

/-- A repair planned and run. -/
def repairReply (j : Json) : Decode Json := do
  let setup ← backendSpec j
  let stack := setup.stack
  let meter := setup.meter
  let failed ← listD j "failed" failedLine?
  let all ← items j "items"
  let plan := Repair.plan failed all (← naturalD j "radius" 1)
  let source ← textD j "source" "en"
  let target ← textD j "target" "fr"
  let splits ← naturalD j "max_split" 2
  let tr : Batch.Translator := { backend := stack, source, target, maxSplits := Nat.max splits 1 }
  let maxBatch ← naturalD j "max_batch" 50
  let maxRetries ← naturalD j "max_retries" 1
  let cancelled ← flagD j "cancelled" false
  let (w, r) := runFrom { meter } do
    let tok ← Run.newToken
    if cancelled then Run.cancelToken tok
    let cap ← Run.newCapture none
    let r ← Repair.execute plan tr maxBatch maxRetries tok cap
    return (cap, r)
  let (cap, r) := r.getD (⟨0, none⟩, .error .cancelled)
  let result := match r with
    | .ok m => .obj [("repaired", itemsJson m)]
    | .error e => jobFailure e
  pure (.obj [("batch", planJson plan), ("result", result), ("backend", setup.report w),
    ("log", logJson (cap.lines w))])

/-- One call made in a `backend` request. -/
inductive Call where
  | translate (text : String) (ask : Ask)
  | batch (items : List (Nat × String)) (ask : Ask)
  | advance (secs : Nat)

/-- Reads a call. -/
def call (j : Json) : Decode Call := do
  let source ← textD j "source" "en"
  let target ← textD j "target" "fr"
  let before ← texts j "pre"
  let after ← texts j "post"
  let ask : Ask := { source, target, before, after }
  match j.field? "translate", j.field? "batch", j.field? "advance_secs" with
  | some (.str t), _, _ => pure (.translate t ask)
  | _, some _, _ => pure (.batch (← items j "batch") ask)
  | _, _, some _ => pure (.advance (← natural j "advance_secs"))
  | _, _, _ => throw "unknown backend call"

/-- Runs one call; its result as an answer. -/
def runCall (setup : Setup) : Call → Run Json
  | .translate t ask => do
    match ← setup.stack.translate none t ask with
    | some (.ok s) => return .obj [("text", .str s)]
    | some (.error e) => return setup.failure e
    | none => return setup.failure .emptyAnswer
  | .batch xs ask => do
    match ← setup.stack.translateBatch none xs ask with
    | some (.ok m) => return .obj [("translated", itemsJson m)]
    | some (.error e) => return setup.failure e
    | none => return setup.failure .emptyAnswer
  | .advance n => do
    Proc.sleep (n * 1000)
    return .obj [("advanced", .nat n)]

/-- Calls made one after another on one backend, each with the backend's state after it. -/
def backendReply (j : Json) : Decode Json := do
  let setup ← backendSpec j
  let stack := setup.stack
  let meter := setup.meter
  let calls ← (← listD j "calls" some).mapM call
  let (w, steps) := calls.foldl (fun (w, steps) c =>
    let (w', r) := runFrom w (runCall setup c)
    let step := Json.obj [("result", r.getD .null), ("supports_batch", .bool stack.supportsBatch),
      ("name", .str stack.name), ("backend", setup.report w'),
      ("paused", .opt (fun m => .bool (m.isPaused w'.clock)) w'.meter)]
    (w', steps ++ [step])) (({ meter } : World), [])
  let _ := w
  pure (.obj [("steps", .arr steps)])

/-- One operation on the usage meter. -/
def meterStep (m : Meter) (now : Nat) (j : Json) : Decode (Meter × Nat × Json) := do
  match ← text j "op" with
  | "reserve" =>
    let (r, _) := m.reserve now (← natural j "n")
    match r with
    | .ok m => pure (m, now, .str "ok")
    | .error e => pure (m, now, backendFailure e)
  | "refund" => pure (m.refund (← natural j "n"), now, .str "ok")
  | "pause" => pure ((m.pauseAt now).1, now, .str "ok")
  | "advance" => pure (m, now + (← natural j "ms"), .str "ok")
  | other => throw ("unknown meter op '" ++ other ++ "'")

/-- Operations on a usage meter, each with the meter's state after it. -/
def meterReply (j : Json) : Decode Json := do
  let m : Meter := { limit := (← optional j "limit" Json.nat?), pauseMs := (← naturalD j "pause_secs" 60) * 1000 }
  let ops ← listD j "ops" some
  let (_, _, steps) ← ops.foldlM (fun (m, now, steps) op => do
    let (m, now, r) ← meterStep m now op
    pure (m, now, steps ++ [Json.obj [("result", r), ("used", .nat m.used), ("paused", .bool (m.isPaused now))]]))
    (m, 0, [])
  pure (.obj [("steps", .arr steps)])

end SubtitleQueue.Service
