import SubtitleQueue.Progress.Report
import SubtitleQueue.Store.Open
import SubtitleQueue.Service.Backends
import SubtitleQueue.Service.Queue

/-!
The progress reporter service: progress and status reports for requests in a store held in
memory, with the events a listener hears after each step and the progress stored.
-/

namespace SubtitleQueue.Service

open Store

/-- An event as JSON. -/
def eventJson : Event → Json
  | .progress r p => .arr [.str "progress", .int r, .nat p]
  | .status r s => .arr [.str "status", .int r, .str s.name]

/-- An event's JSON text, by which events heard together are ordered. -/
def eventText : Event → String
  | .progress r p => "[\"progress\"," ++ toString r ++ "," ++ toString p ++ "]"
  | .status r s => "[\"status\"," ++ toString r ++ ",\"" ++ s.name ++ "\"]"

/-- The progress stored for each request, by id; none when it cannot be read. -/
def storedProgress (w : World) : Json :=
  match (ExceptT.run (StoreOp.rows "SELECT id, progress FROM translation_requests ORDER BY id" [])).run
      w.store with
  | (.ok rs, _) => .list (fun (r : Row) => .list (fun (v : Sql.Value) => match v with
      | .int i => Json.int i
      | .text t => .str t
      | _ => .null) r.values.toList) rs
  | (.error _, _) => .null

/-- A percentage that fits in a byte. -/
def percent? (j : Json) : Option Nat := j.nat?.filter (· ≤ 255)

/-- One reporter step as a task. -/
def reporterStep (j : Json) : Decode (Run Unit) := do
  if let some e := j.field? "emit" then
    match e with
    | .arr [r, p] =>
      match r.int?, percent? p with
      | some r, some p => return Progress.emit r p
      | _, _ => throw "field 'emit' has the wrong type"
    | _ => throw "field 'emit' has the wrong type"
  if let some e := j.field? "emit_batch" then
    match e with
    | .arr [rs, p] =>
      match rs.arr?.bind (·.mapM Json.int?), percent? p with
      | some rs, some p => return Progress.emitAll rs p
      | _, _ => throw "field 'emit_batch' has the wrong type"
    | _ => throw "field 'emit_batch' has the wrong type"
  if let some e := j.field? "status" then
    match e with
    | .arr [r, s] =>
      match r.int?, s.str?.bind RequestStatus.ofName? with
      | some r, some s => return Progress.emitStatus r s
      | _, _ => throw "field 'status' has the wrong type"
    | _ => throw "field 'status' has the wrong type"
  if let some s := j.field? "sql" then
    match s with
    | .str sql => return (do let _ ← Run.stored (StoreOp.batch sql))
    | _ => throw "field 'sql' has the wrong type"
  throw "unknown reporter op"

/-- Reporter steps over a fresh store with some requests in it. -/
def reporterReply (j : Json) : Decode Json := do
  let count ← naturalD j "requests" 0
  let attached ← flagD j "attached" true
  let listening ← flagD j "subscribe" true
  let ops ← listD j "ops" some
  let steps ← ops.mapM reporterStep
  let store ← match openMemory with
    | .ok s => pure s
    | .error f => throw f.message
  let fill : StoreOp Unit := do
    for i in [1:count + 1] do
      let req : NewRequest :=
        { title := "request " ++ toString i, source := "en", target := "fr",
          subtitle := some ("/tmp/request-" ++ toString i ++ ".srt") }
      let _ ← insertRequest req
  let (_, store) := (ExceptT.run fill).run store
  let mut w : World := { store, sink := .reporter attached listening }
  let mut out : List Json := []
  for step in steps do
    let (w', _) := runFrom { w with events := #[] } step
    w := w'
    let heard := w.events.toList.mergeSort fun a b => decide (eventText a ≤ eventText b)
    out := out ++ [.obj [("events", .list eventJson heard), ("stored", storedProgress w)]]
  pure (.obj [("steps", .arr out)])

end SubtitleQueue.Service
