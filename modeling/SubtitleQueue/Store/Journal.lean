import SubtitleQueue.Store.Request

/-!
The log of each request: lines a job or the queue wrote about it, kept until the request is
deleted, oldest first.
-/

namespace SubtitleQueue.Store

open Sql StoreOp

/-- A line to add to a request's log. -/
structure Entry where
  level : String
  message : String
  details : Option String := none
  deriving Repr, DecidableEq, Inhabited

/-- A line of a request's log as stored. -/
structure StoredEntry where
  id : Int
  request : Int
  level : String
  message : String
  details : Option String
  createdAt : String
  deriving Repr, Inhabited

/-- Adds a line to a request's log. -/
def appendEntrySql : String :=
  "\n                    INSERT INTO translation_request_logs (request_id, level, message, details, created_at)\n                    VALUES (?1, ?2, ?3, ?4, ?5)\n                    "

/-- Adds lines to a request's log, all or none, with one time stamp. -/
def appendEntries (request : Int) (entries : List Entry) : StoreOp Unit := do
  if entries.isEmpty then return
  transaction do
    let now ← stamp
    for e in entries do
      let _ ← execute appendEntrySql
        [.int request, .text e.level, .text e.message, textOrNull e.details, .text now]

/-- A request's log, oldest first. -/
def entries (request : Int) : StoreOp (List StoredEntry) := do
  let rs ← rows "\n                    SELECT id, request_id, level, message, details, created_at\n                    FROM translation_request_logs WHERE request_id = ?1 ORDER BY id\n                    "
    [.int request]
  lift <| rs.mapM fun r => do
    return { id := ← r.int 0, request := ← r.int 1, level := ← r.text 2, message := ← r.text 3,
             details := ← r.text? 4, createdAt := ← r.text 5 }

end SubtitleQueue.Store
