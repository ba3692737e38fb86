import SubtitleQueue.Sql.Exec

/-!
Changing what a database holds: making and dropping tables, indexes, views and triggers, and
the settings of the connection (`PRAGMA`).

A table's `INTEGER PRIMARY KEY` column is its row id. Any other primary key, and every
`UNIQUE` column or constraint, gets an index of its own, named after the table and numbered
from one. A table whose key is `AUTOINCREMENT` records the greatest row id it has used in
the table `sqlite_sequence`, made with the first such table, so that ids of deleted rows are
not used again.

Dropping a table drops its indexes and triggers and, with foreign keys on, first deletes its
rows as a `DELETE` would (without running triggers), so that rows referring to them are
deleted or the drop is refused.
-/

namespace SubtitleQueue.Sql

namespace Schema

open Exec

/-- Fails when a name is taken or reserved. -/
def checkFree (db : Database) (n : String) (what : String) : Exec Unit := do
  if (lowerWord n).startsWith "sqlite_" then
    fail { message := "object name reserved for internal use: " ++ n }
  if db.table? n |>.isSome then fail { message := "table " ++ n ++ " already exists" }
  if db.view? n |>.isSome then fail { message := "view " ++ n ++ " already exists" }
  if db.indexes.any (sameName ·.name n) then
    fail { message := "there is already an index named " ++ n }
  if db.triggers.any (sameName ·.name n) then fail { message := what ++ " " ++ n ++ " already exists" }

/-- Makes a table. -/
def createTable (ifNotExists : Bool) (n : String) (cols : List ColumnDef)
    (constraints : List TableConstraint) (text : String) : Exec Unit := do
  let db ← get
  if db.hasObject n || (sameName n "sqlite_sequence" && (db.table? n).isSome) then
    if ifNotExists && ((db.table? n).isSome || (db.view? n).isSome) then return
    if (db.view? n).isSome then fail { message := "view " ++ n ++ " already exists" }
    if (db.table? n).isSome then fail { message := "table " ++ n ++ " already exists" }
    if db.indexes.any (sameName ·.name n) then
      fail { message := "there is already an index named " ++ n }
  if (lowerWord n).startsWith "sqlite_" then
    fail { message := "object name reserved for internal use: " ++ n }
  -- the primary key, from a column or from a table constraint
  let tablePk := constraints.findSome? fun
    | .primaryKey cs => some cs
    | _ => none
  let pkCols : List String := match tablePk with
    | some cs => cs
    | none => cols.filter (·.primaryKey) |>.map (·.name)
  if (cols.filter (·.primaryKey)).length + (if tablePk.isSome then 1 else 0) > 1 then
    fail { message := "table \"" ++ n ++ "\" has more than one primary key" }
  let rowidColumn : Option Nat := match pkCols with
    | [c] => (cols.findIdx? (sameName ·.name c)).bind fun i =>
        let d := cols[i]!
        if lowerWord d.type == "integer" && !d.descending then some i else none
    | _ => none
  let auto := cols.any (·.autoincrement)
  if auto && rowidColumn.isNone then
    fail { message := "AUTOINCREMENT is only allowed on an INTEGER PRIMARY KEY" }
  let columns := cols.toArray.map fun d =>
    ({ name := d.name, type := d.type, affinity := Affinity.ofType d.type,
       notNull := d.notNull, initial := d.initial } : Column)
  let checks := cols.filterMap (·.check) ++ constraints.filterMap fun
    | .check e t => some (e, t)
    | _ => none
  let fks := cols.filterMap (fun d => d.references.map fun (p, pcs, cascade) =>
      ({ columns := [d.name], parent := p, parentColumns := pcs, cascade } : ForeignKey)) ++
    constraints.filterMap fun
      | .foreignKey cs p pcs cascade => some { columns := cs, parent := p, parentColumns := pcs, cascade }
      | _ => none
  -- indexes for keys other than the row id
  let keyed : List (List String × Bool) :=
    (if rowidColumn.isNone && !pkCols.isEmpty then [(pkCols, true)] else []) ++
    (cols.filter (·.unique) |>.map fun d => ([d.name], false)) ++
    constraints.filterMap fun
      | .unique cs => some (cs, false)
      | _ => none
  let table : Table :=
    { name := n, columns := columns, rowidColumn := rowidColumn,
      autoincrement := auto, checks := checks, foreignKeys := fks, text := text }
  let mut db := { db with tables := db.tables ++ [table] }.enter .table n n
  for ((cs, primary), i) in keyed.zipIdx do
    let ixName := "sqlite_autoindex_" ++ n ++ "_" ++ toString (i + 1)
    let ix : Index := { name := ixName, table := n, columns := cs, unique := true, primary := primary }
    db := { db with indexes := db.indexes ++ [ix] }.enter .index ixName n
  if auto && (db.table? "sqlite_sequence").isNone then
    let seq : Table :=
      { name := "sqlite_sequence",
        columns := #[{ name := "name", type := "", affinity := .blob },
                     { name := "seq", type := "", affinity := .blob }],
        text := "CREATE TABLE sqlite_sequence(name,seq)" }
    db := { db with tables := db.tables ++ [seq] }.enter .table "sqlite_sequence" "sqlite_sequence"
  set db

/-- Makes an index; a unique index over rows that already share a key is refused. -/
def createIndex (unique ifNotExists : Bool) (n tname : String) (cols : List String)
    (filter : Option Expr) (text : String) : Exec Unit := do
  let db ← get
  if db.indexes.any (sameName ·.name n) then
    if ifNotExists then return
    fail { message := "index " ++ n ++ " already exists" }
  if db.hasObject n then fail { message := "there is already a table named " ++ n }
  let some t := db.table? tname | fail { message := "no such table: main." ++ tname }
  for c in cols do
    if (t.columnIndex? c).isNone && !rowidNames.contains (lowerWord c) then
      fail { message := "no such column: " ++ c }
  let ix : Index := { name := n, table := t.name, columns := cols, unique, filter, text := some text }
  if unique then
    for (r, vs) in t.rows do
      if !(← conflicts {} t ix r vs).isEmpty then
        fail { message := "UNIQUE constraint failed: " ++ columnsText t cols, code := 2067 }
  set ({ db with indexes := db.indexes ++ [ix] }.enter .index n t.name)

/-- Makes a view. -/
def createView (ifNotExists : Bool) (n : String) (q : Select) (text : String) : Exec Unit := do
  let db ← get
  if db.hasObject n then
    if ifNotExists then return
    if (db.table? n).isSome then fail { message := "table " ++ n ++ " already exists" }
    fail { message := "view " ++ n ++ " already exists" }
  let v : View := { name := n, query := q, text := text }
  set ({ db with views := db.views ++ [v] }.enter .view n n)

/-- Makes a trigger on a table. -/
def createTrigger (ifNotExists : Bool) (n : String) (timing : Timing) (event : Event)
    (tname : String) (condition : Option Expr) (body : List Stmt) (text : String) : Exec Unit := do
  let db ← get
  if db.triggers.any (sameName ·.name n) then
    if ifNotExists then return
    fail { message := "trigger " ++ n ++ " already exists" }
  match db.table? tname with
  | none =>
    if (db.view? tname).isSome && timing != .insteadOf then
      fail { message := "cannot create " ++ (if timing == .before then "BEFORE" else "AFTER") ++
        " trigger on view: main." ++ tname }
    fail { message := "no such table: main." ++ tname }
  | some t =>
    if timing == .insteadOf then
      fail { message := "cannot create INSTEAD OF trigger on table: " ++ t.name }
    let tr : Trigger := { name := n, table := t.name, timing, event, condition, body, text }
    set ({ db with triggers := db.triggers ++ [tr] }.enter .trigger n t.name)

/-- Drops an object of a kind. -/
def drop (kind : ObjectKind) (ifExists : Bool) (n : String) : Exec Unit := do
  let db ← get
  match kind with
  | .table =>
    if sameName n "sqlite_master" || sameName n "sqlite_schema" || sameName n "sqlite_sequence" then
      fail { message := "table " ++ n ++ " may not be dropped" }
    match db.table? n with
    | none =>
      if (db.view? n).isSome then fail { message := "use DROP VIEW to delete view " ++ n }
      if ifExists then return
      fail { message := "no such table: " ++ n }
    | some t =>
      if db.foreignKeys then
        for (r, _) in t.rows do
          let _ ← deleteRow 1000 {} t.name r false
      let db ← get
      let indexes := db.indexesOf t.name
      let triggers := db.triggers.filter (sameName ·.table t.name)
      let mut db := { db with
        tables := db.tables.filter (!sameName ·.name t.name)
        indexes := db.indexes.filter (!sameName ·.table t.name)
        triggers := db.triggers.filter (!sameName ·.table t.name) }.leave t.name
      for ix in indexes do db := db.leave ix.name
      for tr in triggers do db := db.leave tr.name
      if let some s := db.table? "sqlite_sequence" then
        db := db.setTable { s with rows := s.rows.filter fun (_, vs) => vs[0]?.getD .null != .text t.name }
      set db
  | .view =>
    match db.view? n with
    | none =>
      if (db.table? n).isSome then fail { message := "use DROP TABLE to delete table " ++ n }
      if ifExists then return
      fail { message := "no such view: " ++ n }
    | some v => set ({ db with views := db.views.filter (!sameName ·.name v.name) }.leave v.name)
  | .index =>
    match db.indexes.find? (sameName ·.name n) with
    | none => if ifExists then return else fail { message := "no such index: " ++ n }
    | some ix =>
      if ix.text.isNone then
        fail { message := "index associated with UNIQUE or PRIMARY KEY constraint cannot be dropped" }
      set ({ db with indexes := db.indexes.filter (!sameName ·.name ix.name) }.leave ix.name)
  | .trigger =>
    match db.triggers.find? (sameName ·.name n) with
    | none => if ifExists then return else fail { message := "no such trigger: " ++ n }
    | some tr => set ({ db with triggers := db.triggers.filter (!sameName ·.name tr.name) }.leave tr.name)

/-- Whether a setting's value turns it on. -/
def switchedOn (v : Value) : Bool :=
  match v with
  | .text s => ["on", "yes", "true", "1"].contains (lowerWord s)
  | _ => v.isTrue

/-- Reads or changes a setting of the connection; the rows it answers. `onFile` says
whether the database lives in a file, whose journal can be a write-ahead log. -/
def pragma (onFile : Bool) (n : String) (value : Option Value) : Exec (List (Array Value)) := do
  let db ← get
  match n, value with
  | "foreign_keys", none => return [#[.int (if db.foreignKeys then 1 else 0)]]
  | "foreign_keys", some v => set { db with foreignKeys := switchedOn v }; return []
  | "journal_mode", none => return [#[.text db.journal]]
  | "journal_mode", some v =>
    let wanted := lowerWord (v.asText?.getD "")
    let modes := ["delete", "truncate", "persist", "memory", "wal", "off"]
    if !modes.contains wanted then return [#[.text db.journal]]
    let mode := if onFile then wanted else if wanted == "off" then "off" else "memory"
    set { db with journal := mode }
    return [#[.text mode]]
  | "user_version", none => return [#[.int db.userVersion]]
  | "user_version", some v =>
    match v.asNumber with
    | .int i => set { db with userVersion := i }; return []
    | _ => return []
  | "table_info", some v =>
    match db.table? (v.asText?.getD "") with
    | some t => return t.columns.toList.zipIdx.map fun (c, i) =>
        #[.int i, .text c.name, .text c.type, .int (if c.notNull then 1 else 0), .null,
          .int (if t.rowidColumn == some i then 1 else 0)]
    | none => return []
  | "integrity_check", _ | "quick_check", _ => return [#[.text "ok"]]
  | _, _ => return []

end Schema

end SubtitleQueue.Sql
