import SubtitleQueue.Store.File
import SubtitleQueue.Store.Settings
import SubtitleQueue.Store.Statistics
import SubtitleQueue.Store.Journal
import SubtitleQueue.Store.Media
import SubtitleQueue.Service.Files
import SubtitleQueue.Service.Errors
import SubtitleQueue.Service.Queue

/-!
The database service: opening stores on files, at the default place and in memory, running
SQL on them, and a few store operations, step by step. One connection is open at a time;
opening another drops it first, and a connection that failed to open leaves none.
-/

namespace SubtitleQueue.Service

open Store Files

/-- Where the queue keeps its database when none is named: under the user's data folder. -/
def defaultDatabasePath : String := "$DIR/home/.local/share/yastq/yastq.db"

/-- The open connection: the path of its file (none in memory) and its store. -/
structure Session where
  file : Option String
  store : Store
  deriving Inhabited

/-- What the database steps share. -/
structure DbBench where
  disk : Disk := freshDisk
  shelf : Shelf := {}
  session : Option Session := none
  deriving Inhabited

namespace DbBench

/-- Writes the open connection's database back to its file. -/
def save (b : DbBench) : DbBench :=
  match b.session with
  | some { file := some p, store } =>
    let (disk, shelf) := saveFile b.disk b.shelf p store
    { b with disk, shelf }
  | _ => b

/-- Drops the open connection. -/
def close (b : DbBench) : DbBench := { b.save with session := none }

/-- Opens the database file at a path in place of the open connection. -/
def openAt (b : DbBench) (path : String) : DbBench × Json :=
  let b := b.close
  let o := openFile b.disk b.shelf path 0
  let b := { b with disk := o.disk, shelf := o.shelf }
  match o.result with
  | .ok store => ({ b with session := some { file := some path, store } }, .obj [("ok", .str path)])
  | .error f => (b, faultJson f)

/-- Runs an operation on the open store. -/
def onStore {α : Type} (b : DbBench) (op : StoreOp α) (enc : α → Json) : DbBench × Json :=
  match b.session with
  | none => (b, .obj [("error", .str "no_connection")])
  | some s =>
    let (r, store) := (ExceptT.run op).run s.store
    let b := { b with session := some { s with store := { store with log := #[] } } }
    (b.save, match r with
      | .ok v => .obj [("ok", enc v)]
      | .error f => faultJson f)

end DbBench

/-- A value of a row. -/
def cellJson : Sql.Value → Json
  | .null => .null
  | .int i => .int i
  | .real neg v => match v with
    | .zero => .num { mantissa := 0, isFloat := true }
    | .infinite => .null
    | .finite m e =>
      let (d, k) := Decimal.shortest Decimal.double m e
      .num { mantissa := if neg then -(d : Int) else d, exponent := k, isFloat := true }
  | .text s => .str s
  | .blob bs => .str ("<" ++ toString bs.length ++ " bytes>")

/-- Runs texts of statements as one transaction; if one fails, none of them stays. -/
def transactionOf (texts : List String) : StoreOp Unit :=
  StoreOp.transaction (texts.forM StoreOp.batch)

/-- One store operation of a `repo` step. -/
def repoOp (j : Json) : Decode (StoreOp Json) := do
  match ← text j "op" with
  | "insert" =>
    let title ← textD j "title" "clip"
    let source ← textD j "source" "en"
    let target ← textD j "target" "fr"
    let subtitle ← optional j "subtitle" Json.str?
    let priority ← flagD j "priority" false
    let req : NewRequest :=
      { title, source, target, subtitle := subtitle.map underTemp, priority }
    pure do return .int (← insertRequest req).id
  | "count" => pure do return .int (← activeCount)
  | "list" => pure do
      return .list (fun (r : Request) => .arr [.int r.id, .str r.status.name]) (← listRequests none)
  | "set" =>
    let key ← text j "key"
    let value ← text j "value"
    pure do setSetting key value; return .null
  | "get" =>
    let key ← text j "key"
    pure do return .opt .str (← getSetting key)
  | "get_many" =>
    let keys ← texts j "keys"
    pure do
      let found ← getSettings keys
      -- a key asked for twice is answered once
      let unique := found.foldl (fun acc (k, v) => if acc.any (·.1 == k) then acc else acc ++ [(k, v)]) []
      return .obj (unique.map fun (k, v) => (k, .str v))
  | "claim" =>
    let attempts ← naturalD j "attempts" 1
    pure do return .opt (fun (r : Request) => .int r.id) (← claimNext "j" attempts)
  | "finish" =>
    let id ← integer j "id"
    let status ← requestStatus j "status"
    pure do return .bool (← finishRequest id status)
  | "media" => pure do return .int (← insertMedia .movie "M" "/m.mkv" false)
  | "stats" => pure do recordStatistics "fr" 1 1; return .null
  | "logs" =>
    let id ← integer j "id"
    pure do return .nat (← entries id).length
  | "append" =>
    let id ← integer j "id"
    pure do appendEntries id [{ level := "info", message := "m" }]; return .null
  | other => throw ("unknown repo op '" ++ other ++ "'")

/-- One database step. -/
def dbStep (b : DbBench) (j : Json) : Decode (DbBench × Json) := do
  if let some p := j.field? "open" then
    let rel ← match p.str? with
      | some r => pure r
      | none => throw "field 'open' has the wrong type"
    return b.openAt (underTemp rel)
  if (j.field? "open_default").isSome || (j.field? "repo_default").isSome then
    return b.openAt defaultDatabasePath
  if (j.field? "open_memory").isSome then
    let b := b.close
    return match openMemory with
      | .ok store => ({ b with session := some { file := none, store := { store with log := #[] } } },
          .obj [("ok", .str ":memory:")])
      | .error f => (b, faultJson f)
  if (j.field? "close").isSome then
    return (b.close, .obj [("ok", .null)])
  if let some w := j.field? "write" then
    let name ← text w "name"
    let content ← withDefault w "content" ByteArray.empty bytes?
    return match b.disk.writeMaking (underTemp name) content with
      | .ok disk => ({ b with disk }, .obj [("ok", .null)])
      | .error e => (b, plainFailure e.message)
  if let some s := j.field? "exec" then
    let sql ← match s.str? with
      | some q => pure q
      | none => throw "field 'exec' has the wrong type"
    return b.onStore (StoreOp.batch sql) fun () => .null
  if let some s := j.field? "query" then
    let sql ← match s.str? with
      | some q => pure q
      | none => throw "field 'query' has the wrong type"
    return b.onStore (StoreOp.rows sql []) fun rs =>
      .list (fun (r : Row) => .list cellJson r.values.toList) rs
  if let some t := j.field? "transaction" then
    let sqls ← match t.arr?.bind (·.mapM Json.str?) with
      | some qs => pure qs
      | none => throw "field 'transaction' has the wrong type"
    return b.onStore (transactionOf sqls) fun () => .null
  if let some r := j.field? "repo" then
    let ops ← match r.arr? with
      | some os => os.mapM repoOp
      | none => throw "field 'repo' has the wrong type"
    match b.session with
    | none => return (b, .obj [("error", .str "no_connection")])
    | some _ =>
      let mut b := b
      let mut out : List Json := []
      for op in ops do
        let (b', r) := b.onStore op id
        b := b'
        out := out ++ [r]
      return (b, .obj [("ok", .arr out)])
  throw "unknown db step"

/-- Database steps from a fresh folder. -/
def dbReply (j : Json) : Decode Json := do
  let steps ← listD j "steps" some
  let mut b : DbBench := {}
  let mut out : List Json := []
  for s in steps do
    let (b', r) ← dbStep b s
    b := b'
    out := out ++ [r]
  pure (.obj [("steps", .arr out)])

end SubtitleQueue.Service
