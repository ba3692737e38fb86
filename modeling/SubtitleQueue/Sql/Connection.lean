import SubtitleQueue.Sql.Schema

/-!
Running statements on an open database, the way a connection does: each statement's names are
resolved before it runs (so that a statement naming a table or column that does not exist
fails without changing anything), then it runs as a whole or not at all, unless a `FAIL`
keeps the rows it finished. `BEGIN` saves the database and `ROLLBACK` goes back to it.

A batch of statements runs one statement at a time, each read just before it runs, and stops
at the first failure; the statements before it stay done.

A failure that points at a token of a statement is reported with the text the statement was
read from and the byte offset in it; all failures end with their result code and its
description.
-/

namespace SubtitleQueue.Sql

/-- A failure of SQL text: what failed, and the text of the statement it was read from. -/
structure SqlFailure where
  error : SqlError
  statement : String := ""
  deriving Repr, Inhabited

/-- The text of a failure: the message, where it points, and the result code. -/
def SqlFailure.text (f : SqlFailure) : String :=
  let place := match f.error.offset with
    | some o => " in " ++ f.statement ++ " at offset " ++ toString o
    | none => ""
  f.error.message ++ place ++ ": Error code " ++ toString f.error.code ++ ": " ++ codeText f.error.code

/-- What a statement gave back: the names and rows of a query, and how many rows a change
touched. -/
structure Outcome where
  columns : List String := []
  rows : List (Array Value) := []
  changes : Nat := 0
  deriving Inhabited

/-- An open database: its contents, whether it lives in a file, and while a transaction is
open the contents to go back to. -/
structure Connection where
  db : Database
  onFile : Bool := false
  saved : Option Database := none
  deriving Inhabited

namespace Resolve

/-- The names of the columns of a query, without running it; `fuel` bounds views of views. -/
def labels (db : Database) : Nat → Select → List String
  | 0, _ => []
  | fuel + 1, q => q.columns.flatMap fun
    | .star => match q.source with
      | some (n, _) => (sourceColumns db fuel n).getD #[] |>.toList
      | none => []
    | .expr _ l => [l]
where
  /-- The columns of a table, a view or the catalogue. -/
  sourceColumns (db : Database) : Nat → String → Option (Array String)
    | 0, _ => none
    | fuel + 1, n =>
      if sameName n "sqlite_master" || sameName n "sqlite_schema" then
        some #["type", "name", "tbl_name", "rootpage", "sql"]
      else match db.table? n with
        | some t => some t.columnNames
        | none => (db.view? n).map fun v => (labels db fuel v.query).toArray

/-- The columns of a source of rows. -/
def columnsOf (db : Database) (n : String) : Option (Array String) :=
  labels.sourceColumns db 16 n

/-- The first name in a query that does not resolve. -/
def select (db : Database) (outer : List (String × Array String)) (inTrigger : Bool) (q : Select) :
    Option SqlError :=
  let sourceFrame : Except SqlError (List (String × Array String)) :=
    match q.source with
    | some (n, _) => match columnsOf db n with
      | some cs => .ok [(n, cs)]
      | none => .error { message := "no such table: " ++ n }
    | none =>
      if q.columns.any (fun | .star => true | _ => false) then .error { message := "no tables specified" }
      else .ok []
  match sourceFrame with
  | .error e => some e
  | .ok frames =>
    let all := frames ++ outer
    let exprs := q.columns.filterMap fun
      | .expr e _ => some e
      | .star => none
    let aliases : List (String × Array String) := [("", (labels db 16 q).toArray)]
    (Expr.unresolvedList all inTrigger exprs).orElse fun _ =>
      (q.filter.bind (·.unresolved (all ++ aliases) inTrigger)).orElse fun _ =>
        Expr.unresolvedList (all ++ aliases) inTrigger ((q.orderBy.map (·.1)).filter fun
          | .lit _ => false
          | _ => true)

/-- The table a change names, or why it cannot be changed. -/
def target (db : Database) (n : String) : Except SqlError Table :=
  match db.table? n with
  | some t => .ok t
  | none =>
    if (db.view? n).isSome then .error { message := "cannot modify " ++ n ++ " because it is a view" }
    else .error { message := "no such table: " ++ n }

/-- The first name in a statement that does not resolve, with the frames of the trigger it
runs in. -/
def statement (db : Database) (outer : List (String × Array String)) (inTrigger : Bool) :
    Stmt → Option SqlError
  | .select q => select db outer inTrigger q
  | .insert _ n cols rows up =>
    match target db n with
    | .error e => some e
    | .ok t =>
      let missing := (cols.getD []).find? fun c =>
        (t.columnIndex? c).isNone && !rowidNames.contains (lowerWord c)
      match missing with
      | some c => some { message := "table " ++ t.name ++ " has no column named " ++ c }
      | none =>
        let width := match cols with
          | some cs => cs.length
          | none => t.columns.size
        let countError : Option SqlError := match rows with
          | .values rs => (rs.find? (·.length != width)).map fun r =>
              match cols with
              | some _ => { message := toString r.length ++ " values for " ++ toString width ++ " columns" }
              | none => { message := "table " ++ t.name ++ " has " ++ toString width ++
                  " columns but " ++ toString r.length ++ " values were supplied" }
          | .query q => (select db outer inTrigger q).orElse fun _ =>
              let n := (labels db 16 q).length
              if n != width then
                some (match cols with
                  | some _ => { message := toString n ++ " values for " ++ toString width ++ " columns" }
                  | none => { message := "table " ++ t.name ++ " has " ++ toString width ++
                      " columns but " ++ toString n ++ " values were supplied" })
              else none
          | .defaults => none
        countError.orElse fun _ =>
          let valueError := match rows with
            | .values rs => Expr.unresolvedList outer inTrigger rs.flatten
            | _ => none
          valueError.orElse fun _ =>
            match up with
            | some u =>
              let frames := [(t.name, t.columnNames), ("excluded", t.columnNames)] ++ outer
              let sets := u.sets.getD []
              match sets.find? fun (c, _) => (t.columnIndex? c).isNone with
              | some (c, _) => some { message := "no such column: " ++ c }
              | none => (Expr.unresolvedList frames inTrigger (sets.map (·.2))).orElse fun _ =>
                  u.filter.bind (·.unresolved frames inTrigger)
            | none => none
  | .update _ n sets filter =>
    match target db n with
    | .error e => some e
    | .ok t =>
      match sets.find? fun (c, _) => (t.columnIndex? c).isNone && !rowidNames.contains (lowerWord c) with
      | some (c, _) => some { message := "no such column: " ++ c }
      | none =>
        let frames := (t.name, t.columnNames) :: outer
        (Expr.unresolvedList frames inTrigger (sets.map (·.2))).orElse fun _ =>
          filter.bind (·.unresolved frames inTrigger)
  | .delete n filter =>
    match target db n with
    | .error e => some e
    | .ok t => filter.bind (·.unresolved ((t.name, t.columnNames) :: outer) inTrigger)
  | _ => none

end Resolve

namespace Connection

/-- The depth of nested statements a change may reach through triggers. -/
def depth : Nat := 1000

/-- Runs a change or query on the database, undoing it if it fails (unless it failed in a way
that keeps its work). -/
def change (c : Connection) (x : Exec Outcome) : Connection × Except SqlError Outcome :=
  match x.run c.db with
  | .ok (o, db) => ({ c with db }, .ok o)
  | .error (.fault e keep db) => (if keep then { c with db } else c, .error { e with offset := none })
  | .error (.ignore db) => ({ c with db }, .ok {})

/-- Runs one statement with parameters at a time on the clock. -/
def step (c : Connection) (st : Stmt) (params : Array Value) (now : Nat) :
    Connection × Except SqlError Outcome :=
  let env : Env := { params, now }
  match st with
  | .begin =>
    if c.saved.isSome then (c, .error { message := "cannot start a transaction within a transaction" })
    else ({ c with saved := some c.db }, .ok {})
  | .commit =>
    if c.saved.isNone then (c, .error { message := "cannot commit - no transaction is active" })
    else ({ c with saved := none }, .ok {})
  | .rollback =>
    match c.saved with
    | none => (c, .error { message := "cannot rollback - no transaction is active" })
    | some db => ({ c with db, saved := none }, .ok {})
  | _ =>
    match Resolve.statement c.db [] false st with
    | some e => (c, .error e)
    | none =>
      change c <| match st with
        | .select q => do
          let (columns, rows) ← Exec.query depth env q
          pure { columns, rows }
        | .insert res n cols rows up => do
          pure { changes := ← Exec.insert depth env res n cols rows up }
        | .update res n sets filter => do
          pure { changes := ← Exec.update depth env res n sets filter }
        | .delete n filter => do
          pure { changes := ← Exec.delete depth env n filter }
        | .createTable ine n cols cons text => do
          Schema.createTable ine n cols cons text; pure {}
        | .createIndex u ine n t cols filter text => do
          Schema.createIndex u ine n t cols filter text; pure {}
        | .createView ine n q text => do
          Schema.createView ine n q text; pure {}
        | .createTrigger ine n timing event t cond body text => do
          Schema.createTrigger ine n timing event t cond body text; pure {}
        | .drop kind ie n => do
          Schema.drop kind ie n; pure {}
        | .pragma n v => do
          pure { rows := ← Schema.pragma c.onFile n v }
        | _ => pure {}

/-- Reads and runs the first statement of a text: the outcome (none for a text without a
statement) and where the rest of the text begins. -/
def first (c : Connection) (text : String) (params : Array Value) (now : Nat) :
    Connection × Except SqlFailure (Option Outcome × Nat) :=
  match prepare text with
  | .error e => (c, .error { error := { message := e.message, offset := e.offset }, statement := text })
  | .ok (none, rest) => (c, .ok (none, rest))
  | .ok (some st, rest) =>
    match step c st params now with
    | (c', .ok o) => (c', .ok (some o, rest))
    | (c', .error e) => (c', .error { error := e, statement := text })

/-- Runs every statement of a text in turn, stopping at the first failure. -/
def batch (c : Connection) (text : String) (now : Nat) : Connection × Except SqlFailure Unit :=
  go c text (text.length + 1)
where
  /-- Runs statements with a bound on their number. -/
  go (c : Connection) (text : String) : Nat → Connection × Except SqlFailure Unit
    | 0 => (c, .ok ())
    | fuel + 1 =>
      if text.isEmpty then (c, .ok ()) else
      match first c text #[] now with
      | (c', .error f) => (c', .error f)
      | (c', .ok (_, rest)) =>
        if rest == 0 || rest ≥ text.utf8ByteSize then (c', .ok ())
        else
          let tail := (String.fromUTF8? (text.toUTF8.extract rest text.utf8ByteSize)).getD ""
          go c' tail fuel

/-- Runs a single statement with parameters; a text without a statement runs nothing. -/
def run (c : Connection) (text : String) (params : Array Value) (now : Nat) :
    Connection × Except SqlFailure Outcome :=
  match first c text params now with
  | (c', .ok (some o, _)) => (c', .ok o)
  | (c', .ok (none, _)) => (c', .ok {})
  | (c', .error f) => (c', .error f)

/-- Runs a body as one transaction: its changes stay only if it succeeds. -/
def transaction {ε α : Type} (c : Connection) (begun : SqlFailure → ε)
    (body : Connection → Connection × Except ε α) : Connection × Except ε α :=
  if c.saved.isSome then
    (c, .error (begun { error := { message := "cannot start a transaction within a transaction" } }))
  else
    match body c with
    | (c', .ok a) => (c', .ok a)
    | (_, .error e) => (c, .error e)

end Connection

end SubtitleQueue.Sql
