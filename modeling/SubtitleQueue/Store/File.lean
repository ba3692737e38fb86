import SubtitleQueue.Store.Open
import SubtitleQueue.Files.Disk
import SubtitleQueue.Text.Quote

/-!
Databases kept in files. A database file begins with a header this library writes; the
database it holds is kept on a shelf under the file's path, and written back after each use.
A file that holds at most one byte is an empty database (the file system reports a one-byte
file as empty); a longer file with other bytes is not a database, which shows when the
connection first reads it.

Opening a file for the queue makes the folder above it, opens (or creates) the file, puts
the database in write-ahead journal mode, turns on foreign keys and makes or checks the
queue's tables. Each failure says which of these steps failed.
-/

namespace SubtitleQueue.Store

open Sql Files

/-- The header of a database file. -/
def fileHeader : ByteArray := ⟨("SQLite format 3".toUTF8.toList ++ List.replicate 85 0).toArray⟩

/-- The databases held by files, by the normal spelling of their paths. -/
structure Shelf where
  images : List (String × Database) := []
  deriving Inhabited

namespace Shelf

/-- Keeps the database of the file at a path. -/
def put (s : Shelf) (path : String) (db : Database) : Shelf :=
  let k := Disk.key path
  { images := (s.images.filter (·.1 != k)) ++ [(k, db)] }

/-- The database kept for the file at a path. -/
def get? (s : Shelf) (path : String) : Option Database :=
  (s.images.find? (·.1 == Disk.key path)).map (·.2)

end Shelf

/-- What the bytes of a file are as a database. -/
inductive Contents where
  | empty
  | image (db : Database)
  | foreign
  deriving Inhabited

/-- What the file at a path holds, given its bytes. -/
def contentsOf (shelf : Shelf) (path : String) (bytes : ByteArray) : Contents :=
  if bytes.size ≤ 1 then .empty
  else if bytes.data == fileHeader.data then
    match shelf.get? path with
    | some db => .image db
    | none => .foreign
  else .foreign

/-- A failure of the database library with its result code. -/
def libraryFault (message : String) (code : Nat) : Fault :=
  SqlFailure.fault { error := { message, code } }

/-- The files, the shelf and the log after opening a database file, and the store or the
failure. -/
structure Opened where
  disk : Disk
  shelf : Shelf
  log : Array Log.LogLine := #[]
  result : Except Fault Store

/-- Writes a store's database back to its file. -/
def saveFile (disk : Disk) (shelf : Shelf) (path : String) (s : Store) : Disk × Shelf :=
  ((disk.write path fileHeader).toOption.getD disk, shelf.put path s.conn.db)

/-- Opens the database file at `path` for the queue; messages name it as `shown`, the
spelling it was given in. -/
def openFileAt (disk : Disk) (shelf : Shelf) (path shown : String) (now : Nat) : Opened :=
  let made := match parent path with
    | some p => (disk.createDirAll p).mapError fun (e : IoError) =>
        (Fault.msg e.message).within ("Failed to create database directory: " ++
          Text.quoted ((parent shown).getD p))
    | none => .ok disk
  match made with
  | .error f => { disk, shelf, result := .error f }
  | .ok disk =>
    let log := #[{ level := .info, message := "Opening database at: " ++ Text.quoted shown : Log.LogLine }]
    let cantOpen := (libraryFault ("unable to open database file: " ++ shown) 14).within
      ("Failed to open database: " ++ Text.quoted shown)
    let found : Except Fault (Disk × Contents) := match disk.get? path with
      | some .dir => .error cantOpen
      | some (.file bytes) => .ok (disk, contentsOf shelf path bytes)
      | none => match disk.write path ByteArray.empty with
        | .ok d => .ok (d, .empty)
        | .error _ => .error cantOpen
    match found with
    | .error f => { disk, shelf, log, result := .error f }
    | .ok (disk, .foreign) =>
      { disk, shelf, log, result := .error (libraryFault "file is not a database" 26) }
    | .ok (disk, contents) =>
      let db := match contents with
        | .image db => { db with lastRowid := 0, foreignKeys := false }
        | _ => { journal := "delete" }
      let start : Store := { conn := { db, onFile := true }, now }
      let steps : StoreOp Unit := do
        let _ ← StoreOp.run "PRAGMA journal_mode = WAL" []
        prepareConnection
      let (r, s) := (ExceptT.run steps).run start
      let (disk, shelf) := saveFile disk shelf path s
      { disk, shelf, log := log ++ s.log, result := r.map fun () => { s with log := #[] } }

/-- Opens the database file at a path for the queue. -/
def openFile (disk : Disk) (shelf : Shelf) (path : String) (now : Nat) : Opened :=
  openFileAt disk shelf path path now

end SubtitleQueue.Store
