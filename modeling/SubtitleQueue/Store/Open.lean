import SubtitleQueue.Store.Schema

/-!
Opening a store: a database with foreign keys enforced and the queue's tables made or checked.
-/

namespace SubtitleQueue.Store

open Sql StoreOp

/-- Turns on the settings every connection of the queue runs with. -/
def configure : StoreOp Unit := do
  let _ ← run "PRAGMA foreign_keys = ON" []

/-- Makes a connection ready for the queue: configured, with its tables. -/
def prepareConnection : StoreOp Unit := do
  configure
  ensureSchema

/-- A store over a new database held in memory. -/
def openMemory : Except Fault Store :=
  let (r, s) := (ExceptT.run prepareConnection).run { conn := { db := {} } }
  r.map fun () => s

end SubtitleQueue.Store
