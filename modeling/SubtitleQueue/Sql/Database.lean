import SubtitleQueue.Sql.Parser.Statement

/-!
A database: tables with their rows, the indexes that keep keys unique, views, triggers, and
the catalogue that lists them all in the order they were made. Names are compared without
regard to case. A table's rows are kept in order of their row ids; a table with an
`INTEGER PRIMARY KEY` column keeps the row id in that column.

Failures carry a result code: the primary codes name a class of failure (1 for an error in
the statement, 19 for a broken constraint, 26 for a file that is not a database), and the
extended codes say which constraint broke.
-/

namespace SubtitleQueue.Sql

/-- A failure of a statement: its message, result code, and the byte offset in the
statement's text that it is about, if any. -/
structure SqlError where
  message : String
  code : Nat := 1
  offset : Option Nat := none
  deriving Repr, Inhabited

/-- The description of a result code. -/
def codeText : Nat → String
  | 1 => "SQL error or missing database"
  | 5 => "The database file is locked"
  | 14 => "Unable to open the database file"
  | 19 => "Abort due to constraint violation"
  | 20 => "Data type mismatch"
  | 21 => "Library used incorrectly"
  | 25 => "2nd parameter to sqlite3_bind out of range"
  | 26 => "File opened that is not a database file"
  | 275 => "A CHECK constraint failed"
  | 787 => "Foreign key constraint failed"
  | 1299 => "A NOT NULL constraint failed"
  | 1555 => "A PRIMARY KEY constraint failed"
  | 1811 => "A RAISE function within a trigger fired"
  | 2067 => "A UNIQUE constraint failed"
  | 3091 => "A datatype constraint failed"
  | _ => "Unknown error code"

/-- Whether a result code is a broken constraint. -/
def isConstraint (code : Nat) : Bool := code % 256 == 19

/-- A column of a table. -/
structure Column where
  name : String
  type : String
  affinity : Affinity
  notNull : Bool := false
  initial : Option Expr := none
  deriving Repr, Inhabited

/-- A reference from some columns of a table to a parent table; deleting a parent row
deletes its children when `cascade` holds, and is refused otherwise. -/
structure ForeignKey where
  columns : List String
  parent : String
  parentColumns : List String
  cascade : Bool
  deriving Repr, Inhabited

/-- An index. A unique index refuses two rows with the same non-null key, among the rows its
condition holds for. `primary` marks the index of a primary key that is not the row id. -/
structure Index where
  name : String
  table : String
  columns : List String
  unique : Bool
  filter : Option Expr := none
  primary : Bool := false
  text : Option String := none
  deriving Repr, Inhabited

/-- A table and its rows, each row with its row id. -/
structure Table where
  name : String
  columns : Array Column
  rowidColumn : Option Nat := none
  autoincrement : Bool := false
  checks : List (Expr × String) := []
  foreignKeys : List ForeignKey := []
  rows : Array (Int × Array Value) := #[]
  text : String := ""
  deriving Repr, Inhabited

/-- A trigger. -/
structure Trigger where
  name : String
  table : String
  timing : Timing
  event : Event
  condition : Option Expr
  body : List Stmt
  text : String
  deriving Repr, Inhabited

/-- A view. -/
structure View where
  name : String
  query : Select
  text : String
  deriving Repr, Inhabited

/-- An entry of the catalogue. -/
structure Entry where
  kind : ObjectKind
  name : String
  table : String
  page : Nat
  deriving Repr, Inhabited

/-- A database and the settings of its connection. -/
structure Database where
  tables : List Table := []
  indexes : List Index := []
  views : List View := []
  triggers : List Trigger := []
  catalogue : List Entry := []
  nextPage : Nat := 2
  foreignKeys : Bool := false
  journal : String := "memory"
  userVersion : Int := 0
  lastRowid : Int := 0
  deriving Repr, Inhabited

/-- Whether two names are the same, without regard to case. -/
def sameName (a b : String) : Bool := lowerWord a == lowerWord b

namespace Table

/-- The position of a column. -/
def columnIndex? (t : Table) (n : String) : Option Nat :=
  t.columns.findIdx? (fun c => sameName c.name n)

/-- The names of the columns. -/
def columnNames (t : Table) : Array String := t.columns.map (·.name)

/-- The row with a row id. -/
def row? (t : Table) (rowid : Int) : Option (Array Value) :=
  (t.rows.find? (·.1 == rowid)).map (·.2)

/-- The greatest row id, zero for an empty table. -/
def maxRowid (t : Table) : Int := t.rows.foldl (fun m (r, _) => max m r) 0

/-- Puts a row, replacing the row with the same id, keeping the rows in id order. -/
def putRow (t : Table) (rowid : Int) (vals : Array Value) : Table :=
  let others := t.rows.filter (·.1 != rowid)
  let (before, after) := (others.toList.partition (·.1 < rowid))
  { t with rows := (before ++ [(rowid, vals)] ++ after).toArray }

/-- Removes the row with a row id. -/
def removeRow (t : Table) (rowid : Int) : Table :=
  { t with rows := t.rows.filter (·.1 != rowid) }

end Table

namespace Database

/-- The table with a name. -/
def table? (db : Database) (n : String) : Option Table := db.tables.find? (sameName ·.name n)

/-- The view with a name. -/
def view? (db : Database) (n : String) : Option View := db.views.find? (sameName ·.name n)

/-- Whether any object has a name. -/
def hasObject (db : Database) (n : String) : Bool := db.catalogue.any (sameName ·.name n)

/-- Replaces a table of the same name. -/
def setTable (db : Database) (t : Table) : Database :=
  { db with tables := db.tables.map fun u => if sameName u.name t.name then t else u }

/-- The indexes of a table. -/
def indexesOf (db : Database) (table : String) : List Index :=
  db.indexes.filter (sameName ·.table table)

/-- Adds an entry to the catalogue, on the next free page for tables and indexes. -/
def enter (db : Database) (kind : ObjectKind) (n table : String) : Database :=
  let paged := kind == .table || kind == .index
  { db with
    catalogue := db.catalogue ++ [{ kind, name := n, table, page := if paged then db.nextPage else 0 }]
    nextPage := if paged then db.nextPage + 1 else db.nextPage }

/-- Removes an entry from the catalogue. -/
def leave (db : Database) (n : String) : Database :=
  { db with catalogue := db.catalogue.filter fun e => !sameName e.name n }

end Database

end SubtitleQueue.Sql
