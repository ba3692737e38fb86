import SubtitleQueue.Sql.Eval

/-!
Running queries and changes to rows.

A change goes row by row: an update or delete first finds the rows its condition holds for,
then for each row runs the `BEFORE` triggers, checks the constraints, writes the row and runs
the `AFTER` triggers. A trigger that raises `IGNORE` skips the row it fired for and keeps
what it changed; `ABORT` undoes the whole statement; `FAIL` stops it and keeps the rows done
so far. A broken constraint is resolved as the statement says: by failing (the default), by
skipping the row, or by replacing the rows in the way.

With foreign keys on, a row may only refer to a parent row that exists, and deleting a parent
row deletes the rows that refer to it where the reference says `ON DELETE CASCADE`, and is
refused otherwise.

Running statements can nest without end through triggers, so every step takes fuel: a bound
on the depth of nesting, which a real schema never comes near.
-/

namespace SubtitleQueue.Sql

/-- Why a statement stopped early: a trigger raised `IGNORE`, which leaves the database as it
stands; or the statement failed, with the database as it stood and whether that state is kept
(`FAIL`) or the statement is undone. -/
inductive Stop where
  | ignore (db : Database)
  | fault (e : SqlError) (keep : Bool) (db : Database)
  deriving Inhabited

/-- Running statements on a database. -/
abbrev Exec := StateT Database (Except Stop)

/-- What a running statement sees besides the database: its parameters, the clock, the rows
`NEW` and `OLD` of the trigger it runs in, and whether it runs in one. -/
structure Env where
  params : Array Value := #[]
  now : Nat := 0
  frames : List Frame := []
  inTrigger : Bool := false
  deriving Inhabited

/-- The scope of an expression over some frames of rows in an environment. -/
def Env.scope (env : Env) (frames : List Frame) : Scope :=
  { frames := frames ++ env.frames, params := env.params, now := env.now }

/-- Whether a trigger fires for a change of some columns. -/
def Trigger.fires (tr : Trigger) (timing : Timing) (event : Event) : Bool :=
  tr.timing == timing &&
    match tr.event, event with
    | .insert, .insert => true
    | .delete, .delete => true
    | .update watched, .update changed => watched.isEmpty || watched.any fun w => changed.any (sameName w)
    | _, _ => false

namespace Exec

/-- Fails; the database is kept as it is now when `keep` holds. -/
def fail {α : Type} (e : SqlError) (keep : Bool := false) : Exec α := do
  throw (.fault e keep (← get))

/-- The outcome of an evaluation: a `RAISE` becomes a failure of the statement, or the
skipping of a row. -/
def lift {α : Type} (x : Except Interrupt α) : Exec α := do
  match x with
  | .ok a => pure a
  | .error .ignore => throw (.ignore (← get))
  | .error (.raise kind msg) => fail { message := msg, code := 1811 } (kind == .fail)
  | .error (.error e) => fail e

/-- The table with a name. -/
def table (n : String) : Exec Table := do
  match (← get).table? n with
  | some t => pure t
  | none => fail { message := "no such table: " ++ n }

/-- The quoted names of some columns of a table, for a constraint's message. -/
def columnsText (t : Table) (cols : List String) : String :=
  ", ".intercalate (cols.map fun c => t.name ++ "." ++ c)

/-- The values of a row at some columns; the row id for the row id's names. -/
def keyOf (t : Table) (rowid : Int) (vals : Array Value) (cols : List String) : List Value :=
  cols.map fun c => match t.columnIndex? c with
    | some i => vals[i]?.getD .null
    | none => if rowidNames.contains (lowerWord c) then .int rowid else .null

/-- Whether two keys are the same: no part null, every part equal. -/
def sameKey (a b : List Value) : Bool :=
  a.length == b.length && (a.zip b).all fun (x, y) => Value.same x y

/-- Whether an index covers a row: its condition holds for it. -/
def covers (env : Env) (t : Table) (ix : Index) (rowid : Int) (vals : Array Value) : Exec Bool :=
  match ix.filter with
  | none => pure true
  | some c => lift (holds (env.scope [t.frame t.name rowid vals]) (some c))

/-- The rows other than `rowid` that share a key of a unique index with a row. -/
def conflicts (env : Env) (t : Table) (ix : Index) (rowid : Int) (vals : Array Value) :
    Exec (List Int) := do
  if !ix.unique then return []
  let key := keyOf t rowid vals ix.columns
  if key.contains .null then return []
  if !(← covers env t ix rowid vals) then return []
  let mut found : Array Int := #[]
  for (r, other) in t.rows do
    if r != rowid && sameKey key (keyOf t r other ix.columns) then
      if ← covers env t ix r other then found := found.push r
  return found.toList

/-- The row id a new row gets: one past the greatest, or past the greatest ever used for a
table that counts them. -/
def freshRowid (t : Table) : Exec Int := do
  let db ← get
  let used : Int := if t.autoincrement then
      match db.table? "sqlite_sequence" with
      | some s => s.rows.foldl (fun m (_, vs) =>
          if (vs[0]?.getD .null) == .text t.name then
            match vs[1]?.getD .null with
            | .int n => max m n
            | _ => m
          else m) 0
      | none => 0
    else 0
  return (max used t.maxRowid) + 1

/-- Records the greatest row id used by a table that counts them. -/
def noteRowid (t : Table) (rowid : Int) : Exec Unit := do
  if !t.autoincrement then return
  let db ← get
  match db.table? "sqlite_sequence" with
  | none => pure ()
  | some s =>
    let existing := s.rows.find? fun (_, vs) => (vs[0]?.getD .null) == .text t.name
    match existing with
    | some (r, vs) =>
      let seq := match vs[1]?.getD .null with
        | .int n => n
        | _ => 0
      if rowid > seq then set (db.setTable (s.putRow r #[.text t.name, .int rowid]))
    | none => set (db.setTable (s.putRow (s.maxRowid + 1) #[.text t.name, .int rowid]))

/-- The frames of a trigger: `NEW` and `OLD` where the change has them. -/
def triggerFrames (t : Table) (old new : Option (Int × Array Value)) : List Frame :=
  (match new with
    | some (r, vs) => [t.frame "new" r vs]
    | none => []) ++
  (match old with
    | some (r, vs) => [t.frame "old" r vs]
    | none => [])

/-- Checks the foreign keys of a row of a child table: each non-null reference must name an
existing parent row. -/
def checkParents (t : Table) (rowid : Int) (vals : Array Value) : Exec Unit := do
  let db ← get
  if !db.foreignKeys then return
  for fk in t.foreignKeys do
    let key := keyOf t rowid vals fk.columns
    if key.contains .null then continue
    match db.table? fk.parent with
    | none => fail { message := "no such table: main." ++ fk.parent }
    | some p =>
      let pcols := if fk.parentColumns.isEmpty then
          (match p.rowidColumn with
            | some i => [p.columns[i]!.name]
            | none => ["rowid"])
        else fk.parentColumns
      let present := p.rows.any fun (r, pv) => sameKey key (keyOf p r pv pcols)
      if !present then fail { message := "FOREIGN KEY constraint failed", code := 787 }

mutual

/-- Runs the triggers of a table for a change; whether one of them raised `IGNORE`. -/
def runTriggers (fuel : Nat) (env : Env) (tname : String) (timing : Timing) (event : Event)
    (old new : Option (Int × Array Value)) : Exec Bool :=
  match fuel with
  | 0 => fail { message := "too many levels of trigger recursion" }
  | fuel + 1 => do
    let db ← get
    let some t := db.table? tname | return false
    let triggers := (db.triggers.filter fun tr => sameName tr.table tname && tr.fires timing event).reverse
    for tr in triggers do
      let frames := triggerFrames t old new
      let inner : Env := { env with frames, inTrigger := true }
      if !(← lift (holds (inner.scope []) tr.condition)) then continue
      let ignored ← tryCatch (do
          for st in tr.body do
            runBody fuel inner st
          pure false)
        (fun e => match e with
          | .ignore db => do set db; pure true
          | other => throw other)
      if ignored then return true
    return false

/-- Runs one statement of a trigger's body. -/
def runBody (fuel : Nat) (env : Env) (st : Stmt) : Exec Unit :=
  match fuel with
  | 0 => fail { message := "too many levels of trigger recursion" }
  | fuel + 1 => do
    match st with
    | .select q => let _ ← query fuel env q
    | .insert res t cols rows up => let _ ← insert fuel env res t cols rows up
    | .update res t sets filter => let _ ← update fuel env res t sets filter
    | .delete t filter => let _ ← delete fuel env t filter
    | _ => pure ()

/-- The column names and rows of a query. -/
def query (fuel : Nat) (env : Env) (q : Select) : Exec (List String × List (Array Value)) :=
  match fuel with
  | 0 => fail { message := "too many levels of trigger recursion" }
  | fuel + 1 => do
    let db ← get
    -- the rows to read, as frames, with the names of their columns
    let (names, sourceRows) ← match q.source with
      | none => pure (#[], [([] : List Frame)])
      | some (n, _) =>
        if sameName n "sqlite_master" || sameName n "sqlite_schema" then
          let cols := #["type", "name", "tbl_name", "rootpage", "sql"]
          let rows := db.catalogue.zipIdx.map fun (e, i) =>
            let sql : Value := match e.kind with
              | .table => ((db.table? e.name).map (Value.text ·.text)).getD .null
              | .index => (((db.indexes.find? (sameName ·.name e.name)).bind (·.text)).map Value.text).getD .null
              | .view => ((db.view? e.name).map (Value.text ·.text)).getD .null
              | .trigger => ((db.triggers.find? (sameName ·.name e.name)).map (Value.text ·.text)).getD .null
            [({ name := n, columns := cols, affinities := #[.text, .text, .text, .integer, .text],
                values := #[.text e.kind.name, .text e.name, .text e.table, .int e.page, sql],
                rowid := some (i + 1) } : Frame)]
          pure (cols, rows)
        else match db.table? n with
          | some t => pure (t.columnNames, t.rows.toList.map fun (r, vs) => [t.frame n r vs])
          | none => match db.view? n with
            | some v => do
              let (vcols, vrows) ← query fuel env v.query
              let cols := vcols.toArray
              pure (cols, vrows.zipIdx.map fun (vs, i) =>
                [({ name := n, columns := cols, affinities := cols.map fun _ => Affinity.blob,
                    values := vs, rowid := some (i + 1) } : Frame)])
            | none => fail { message := "no such table: " ++ n }
    let mut kept : Array (List Frame) := #[]
    for fs in sourceRows do
      if ← lift (holds (env.scope fs) q.filter) then kept := kept.push fs
    let labels : List String := q.columns.flatMap fun
      | .star => names.toList
      | .expr _ l => [l]
    let exprs : List Expr := q.columns.flatMap fun
      | .star => names.toList.map fun c => Expr.column none c 0
      | .expr e _ => [e]
    let aggregated := exprs.any Expr.hasAggregate
    -- each output row with the frames it came from
    let mut out : Array (Array Value × List Frame) := #[]
    if aggregated then
      let last := (kept.back?).getD []
      let scope := { env.scope last with group := some kept.toList }
      let vals ← lift (evalList scope exprs)
      out := out.push (vals.toArray, last)
    else
      for fs in kept do
        let vals ← lift (evalList (env.scope fs) exprs)
        out := out.push (vals.toArray, fs)
    if q.distinct then
      let mut seen : Array (Array Value × List Frame) := #[]
      for r in out do
        if !seen.any (fun s => s.1 == r.1) then seen := seen.push r
      out := seen
    -- sort by the keys of each row, stable
    if !q.orderBy.isEmpty then
      let mut keyed : Array (List Value × Array Value × List Frame) := #[]
      for (vals, fs) in out do
        let mut keys : Array Value := #[]
        for (e, _) in q.orderBy do
          let k ← match e with
            | .lit (.int k) => pure (vals[k.toNat - 1]?.getD .null)
            | .column none c _ =>
              match labels.findIdx? (sameName · c), (env.scope fs).column? none c with
              | _, some (v, _) => pure v
              | some i, none => pure (vals[i]?.getD .null)
              | none, none => lift (eval (env.scope fs) e)
            | _ => lift (eval ({ env.scope fs with group := if aggregated then some kept.toList else none }) e)
          keys := keys.push k
        keyed := keyed.push (keys.toList, vals, fs)
      let desc := q.orderBy.map (·.2)
      let before (a b : List Value × Array Value × List Frame) : Bool :=
        let rec go : List Value → List Value → List Bool → Bool
          | x :: xs, y :: ys, d :: ds =>
            match Value.order x y with
            | .eq => go xs ys ds
            | .lt => !d
            | .gt => d
          | _, _, _ => false
        go a.1 b.1 desc
      let sorted := keyed.toList.mergeSort fun a b => !(before b a)
      out := (sorted.map fun (_, v, f) => (v, f)).toArray
    let whole (e : Option Expr) (d : Int) : Exec Int := do
      match e with
      | none => pure d
      | some x => match (← lift (eval (env.scope []) x)).asNumber with
        | .int i => pure i
        | _ => pure d
    let skip ← whole q.offset 0
    let lim ← whole q.limit (-1)
    let rows := (out.toList.drop skip.toNat).map (·.1)
    let rows := if lim < 0 then rows else rows.take lim.toNat
    return (labels, rows)

/-- Inserts rows; how many were inserted or updated. -/
def insert (fuel : Nat) (env : Env) (res : Resolution) (tname : String) (cols : Option (List String))
    (rows : Rows) (up : Option Upsert) : Exec Nat :=
  match fuel with
  | 0 => fail { message := "too many levels of trigger recursion" }
  | fuel + 1 => do
    let t ← table tname
    let targets : List Nat := match cols with
      | some cs => cs.filterMap t.columnIndex?
      | none => List.range t.columns.size
    let values ← match rows with
      | .values rs => rs.mapM fun r => lift (evalList (env.scope []) r)
      | .query q => do
        let (_, rs) ← query fuel env q
        pure (rs.map (·.toList))
      | .defaults => pure [[]]
    let mut count := 0
    for vals in values do
      count := count + (← insertRow fuel env res tname targets vals up)
    return count

/-- Inserts one row given the values of some columns; 1 if it was inserted or an upsert
updated a row, 0 if it was skipped. -/
def insertRow (fuel : Nat) (env : Env) (res : Resolution) (tname : String) (targets : List Nat)
    (given : List Value) (up : Option Upsert) : Exec Nat :=
  match fuel with
  | 0 => fail { message := "too many levels of trigger recursion" }
  | fuel + 1 => do
    let t ← table tname
    let keep := res == .fail
    let mut vals : Array Value := #[]
    for (c, i) in t.columns.toList.zipIdx do
      match targets.findIdx? (· == i) with
      | some j => vals := vals.push ((given[j]?.getD .null).withAffinity c.affinity)
      | none =>
        let d ← match c.initial with
          | some e => lift (eval (env.scope []) e)
          | none => pure .null
        vals := vals.push (d.withAffinity c.affinity)
    let rowid ← match t.rowidColumn with
      | some i => match vals[i]?.getD .null with
        | .null => freshRowid t
        | .int r => pure r
        | _ => fail { message := "datatype mismatch", code := 20 } keep
      | none => freshRowid t
    if let some i := t.rowidColumn then vals := vals.set! i (.int rowid)
    if ← runTriggers fuel env tname .before .insert none (some (rowid, vals)) then return 0
    -- constraints: not null, checks, then keys
    for (c, i) in t.columns.toList.zipIdx do
      if c.notNull && vals[i]?.getD .null == .null then
        if res == .ignore then return 0
        fail { message := "NOT NULL constraint failed: " ++ t.name ++ "." ++ c.name, code := 1299 } keep
    for (e, text) in t.checks do
      let v ← lift (eval (env.scope [t.frame t.name rowid vals]) e)
      if v != .null && !v.isTrue then
        if res == .ignore then return 0
        fail { message := "CHECK constraint failed: " ++ text, code := 275 } keep
    -- the constraints a row can clash on: the row id, then each unique index
    let db ← get
    let rowidName := match t.rowidColumn with
      | some i => t.columns[i]!.name
      | none => "rowid"
    let mut clashes : Array (List String × Bool × List Int) := #[]
    if (t.row? rowid).isSome then clashes := clashes.push ([rowidName], true, [rowid])
    for ix in db.indexesOf tname do
      let cs ← conflicts env t ix rowid vals
      if !cs.isEmpty then clashes := clashes.push (ix.columns, ix.primary, cs)
    -- an upsert takes the first clash on its target
    if let some u := up then
      let hit := clashes.toList.find? fun (cols, _, _) =>
        u.target.isEmpty || (u.target.length == cols.length && u.target.all fun c => cols.any (sameName c))
      if let some (_, _, r :: _) := hit then
        match u.sets with
        | none => return 0
        | some sets =>
          let some old := t.row? r | return 0
          let excluded := t.frame "excluded" rowid vals
          let scope := env.scope [t.frame t.name r old, excluded]
          if !(← lift (holds scope u.filter)) then return 0
          let mut row := old
          let mut setCols : Array String := #[]
          for (c, e) in sets do
            if let some i := t.columnIndex? c then
              let v ← lift (eval scope e)
              row := row.set! i (v.withAffinity (t.columns[i]!.affinity))
              setCols := setCols.push c
          return ← updateRow fuel env .abort tname r old row setCols.toList
    for (cols, primary, rs) in clashes do
      match res with
      | .ignore => return 0
      | .replace =>
        for r in rs do
          let _ ← deleteRow fuel env tname r false
      | _ =>
        fail { message := "UNIQUE constraint failed: " ++ columnsText t cols,
               code := if primary then 1555 else 2067 } keep
    checkParents t rowid vals
    let t ← table tname
    modify fun db => { db.setTable (t.putRow rowid vals) with
      lastRowid := if env.inTrigger then db.lastRowid else rowid }
    noteRowid t rowid
    let _ ← runTriggers fuel env tname .after .insert none (some (rowid, vals))
    return 1

/-- Replaces a row with new values: triggers, constraints, the write; 1 if written. -/
def updateRow (fuel : Nat) (env : Env) (res : Resolution) (tname : String) (rowid : Int)
    (old new : Array Value) (setCols : List String) : Exec Nat :=
  match fuel with
  | 0 => fail { message := "too many levels of trigger recursion" }
  | fuel + 1 => do
    let t ← table tname
    let keep := res == .fail
    let newRowid ← match t.rowidColumn with
      | some i => match new[i]?.getD .null with
        | .int r => pure r
        | .null => pure rowid
        | _ => fail { message := "datatype mismatch", code := 20 } keep
      | none => pure rowid
    let event := Event.update setCols
    if ← runTriggers fuel env tname .before event (some (rowid, old)) (some (newRowid, new)) then
      return 0
    for (c, i) in t.columns.toList.zipIdx do
      if c.notNull && new[i]?.getD .null == .null then
        if res == .ignore then return 0
        fail { message := "NOT NULL constraint failed: " ++ t.name ++ "." ++ c.name, code := 1299 } keep
    for (e, text) in t.checks do
      let v ← lift (eval (env.scope [t.frame t.name newRowid new]) e)
      if v != .null && !v.isTrue then
        if res == .ignore then return 0
        fail { message := "CHECK constraint failed: " ++ text, code := 275 } keep
    let db ← get
    let others := t.removeRow rowid
    let rowidName := match t.rowidColumn with
      | some i => t.columns[i]!.name
      | none => "rowid"
    let mut clashes : Array (List String × Bool × List Int) := #[]
    if newRowid != rowid && (t.row? newRowid).isSome then
      clashes := clashes.push ([rowidName], true, [newRowid])
    for ix in db.indexesOf tname do
      let cs ← conflicts env others ix newRowid new
      if !cs.isEmpty then clashes := clashes.push (ix.columns, ix.primary, cs)
    for (cols, primary, rs) in clashes do
      match res with
      | .ignore => return 0
      | .replace =>
        for r in rs do
          let _ ← deleteRow fuel env tname r false
      | _ =>
        fail { message := "UNIQUE constraint failed: " ++ columnsText t cols,
               code := if primary then 1555 else 2067 } keep
    if t.foreignKeys.any (fun fk => fk.columns.any fun c => setCols.any (sameName c)) then
      checkParents t newRowid new
    let t ← table tname
    modify fun db => db.setTable ((t.removeRow rowid).putRow newRowid new)
    let _ ← runTriggers fuel env tname .after event (some (rowid, old)) (some (newRowid, new))
    return 1

/-- Updates the rows a condition holds for; how many were changed. -/
def update (fuel : Nat) (env : Env) (res : Resolution) (tname : String)
    (sets : List (String × Expr)) (filter : Option Expr) : Exec Nat :=
  match fuel with
  | 0 => fail { message := "too many levels of trigger recursion" }
  | fuel + 1 => do
    let t ← table tname
    let mut matching : Array Int := #[]
    for (r, vs) in t.rows do
      if ← lift (holds (env.scope [t.frame t.name r vs]) filter) then matching := matching.push r
    let mut count := 0
    for r in matching do
      let t ← table tname
      let some old := t.row? r | continue
      let scope := env.scope [t.frame t.name r old]
      let mut row := old
      for (c, e) in sets do
        if let some i := t.columnIndex? c then
          let v ← lift (eval scope e)
          row := row.set! i (v.withAffinity (t.columns[i]!.affinity))
      count := count + (← updateRow fuel env res tname r old row (sets.map (·.1)))
    return count

/-- Deletes the rows a condition holds for; how many were deleted. -/
def delete (fuel : Nat) (env : Env) (tname : String) (filter : Option Expr) : Exec Nat :=
  match fuel with
  | 0 => fail { message := "too many levels of trigger recursion" }
  | fuel + 1 => do
    let t ← table tname
    let mut matching : Array Int := #[]
    for (r, vs) in t.rows do
      if ← lift (holds (env.scope [t.frame t.name r vs]) filter) then matching := matching.push r
    let mut count := 0
    for r in matching do
      count := count + (← deleteRow fuel env tname r true)
    return count

/-- Deletes one row, with its triggers when `withTriggers` holds, and the rows that refer to
it; 1 if it was deleted. -/
def deleteRow (fuel : Nat) (env : Env) (tname : String) (rowid : Int) (withTriggers : Bool) :
    Exec Nat :=
  match fuel with
  | 0 => fail { message := "too many levels of trigger recursion" }
  | fuel + 1 => do
    let t ← table tname
    let some old := t.row? rowid | return 0
    if withTriggers then
      if ← runTriggers fuel env tname .before .delete (some (rowid, old)) none then return 0
    let db ← get
    if db.foreignKeys then
      for child in db.tables do
        for fk in child.foreignKeys do
          if !sameName fk.parent tname then continue
          let pcols := if fk.parentColumns.isEmpty then
              (match t.rowidColumn with
                | some i => [t.columns[i]!.name]
                | none => ["rowid"])
            else fk.parentColumns
          let key := keyOf t rowid old pcols
          if key.contains .null then continue
          let refs := child.rows.toList.filter fun (r, cv) => sameKey key (keyOf child r cv fk.columns)
          if refs.isEmpty then continue
          if fk.cascade then
            for (r, _) in refs do
              let _ ← deleteRow fuel env child.name r true
          else fail { message := "FOREIGN KEY constraint failed", code := 787 }
    let t ← table tname
    modify fun db => db.setTable (t.removeRow rowid)
    if withTriggers then
      let _ ← runTriggers fuel env tname .after .delete (some (rowid, old)) none
    return 1

end

end Exec

end SubtitleQueue.Sql
