import SubtitleQueue.Sql.Parser

/-!
Reading whole statements: queries, inserts, updates and deletes, the definitions of tables,
indexes, views and triggers, `DROP`, `PRAGMA` and the transaction statements. A batch of
statements is read one statement at a time: `prepare` reads the first statement of a text and
says where the rest begins, just after its semicolon.
-/

namespace SubtitleQueue.Sql

namespace Parser

/-- The text of a statement from the token at `first` to the one before `stop`. -/
def spanText (first stop : Nat) : Parser String := do
  let src ← read
  match src.tokens[first]?, src.tokens[stop - 1]? with
  | some a, some b =>
    let bytes := src.text.toUTF8.extract a.offset (b.offset + b.raw.utf8ByteSize)
    return (String.fromUTF8? bytes).getD ""
  | _, _ => return ""

/-- A conflict resolution after `OR` or `ON CONFLICT`. -/
def resolution : Parser Resolution := do
  if ← keyword? "abort" then return .abort
  if ← keyword? "fail" then return .fail
  if ← keyword? "ignore" then return .ignore
  if ← keyword? "replace" then return .replace
  if ← keyword? "rollback" then return .rollback
  failHere

/-- An optional `ON CONFLICT` clause of a constraint, which is read and not used. -/
def conflictClause : Parser Unit := do
  if ← keyword? "on" then
    keyword "conflict"
    let _ ← resolution

/-- A query. -/
def select (fuel : Nat) : Parser Select := do
  keyword "select"
  let distinct ← keyword? "distinct"
  if !distinct then let _ ← keyword? "all"
  let mut columns : Array ResultColumn := #[]
  let src ← read
  for _ in [0:src.tokens.size] do
    if ← symbol? "*" then columns := columns.push .star
    else
      let start ← get
      let e ← expr fuel 0
      let stop ← get
      let given ← if ← keyword? "as" then some <$> name else name?
      let label ← match given with
        | some a => pure a
        | none => match e with
          | .column _ n _ => pure n
          | _ => spanText start stop
      columns := columns.push (.expr e label)
    if !(← symbol? ",") then break
  let mut source : Option (String × Nat) := none
  if ← keyword? "from" then
    let some t ← peek | failHere
    let table ← objectName
    source := some (table, t.offset)
    if ← keyword? "as" then let _ ← name
    else let _ ← name?
  let filter ← if ← keyword? "where" then some <$> expr fuel 0 else pure none
  let mut orderBy : Array (Expr × Bool) := #[]
  if ← keyword? "order" then
    keyword "by"
    for _ in [0:src.tokens.size] do
      let e ← expr fuel 0
      let desc ← if ← keyword? "desc" then pure true else do let _ ← keyword? "asc"; pure false
      orderBy := orderBy.push (e, desc)
      if !(← symbol? ",") then break
  let mut limit : Option Expr := none
  let mut offset : Option Expr := none
  if ← keyword? "limit" then
    let first ← expr fuel 0
    if ← keyword? "offset" then
      limit := some first
      offset := some (← expr fuel 0)
    else if ← symbol? "," then
      offset := some first
      limit := some (← expr fuel 0)
    else limit := some first
  return { distinct, columns := columns.toList, source, filter, orderBy := orderBy.toList, limit, offset }

/-- A comma-separated list of `column = value` settings. -/
def settings (fuel : Nat) : Parser (List (String × Expr)) := do
  let mut sets : Array (String × Expr) := #[]
  let src ← read
  for _ in [0:src.tokens.size] do
    let c ← name
    symbol "="
    sets := sets.push (c, ← expr fuel 0)
    if !(← symbol? ",") then break
  return sets.toList

/-- An insert, after `INSERT` or `REPLACE`. -/
def insert (fuel : Nat) (res : Resolution) : Parser Stmt := do
  keyword "into"
  let table ← objectName
  if ← keyword? "as" then let _ ← name
  let columns ← if ← atSymbol "(" then some <$> nameList else pure none
  let rows ← if ← keyword? "values" then do
      let mut rows : Array (List Expr) := #[]
      let src ← read
      for _ in [0:src.tokens.size] do
        symbol "("
        rows := rows.push (← exprList fuel)
        symbol ")"
        if !(← symbol? ",") then break
      pure (Rows.values rows.toList)
    else if ← keyword? "default" then do
      keyword "values"
      pure Rows.defaults
    else if ← atKeyword "select" then Rows.query <$> select fuel
    else failHere
  let mut upsert : Option Upsert := none
  if ← keyword? "on" then
    keyword "conflict"
    let target ← if ← atSymbol "(" then nameList else pure []
    if !target.isEmpty then
      if ← keyword? "where" then let _ ← expr fuel 0
    keyword "do"
    if ← keyword? "nothing" then upsert := some { target, sets := none }
    else
      keyword "update"
      keyword "set"
      let sets ← settings fuel
      let filter ← if ← keyword? "where" then some <$> expr fuel 0 else pure none
      upsert := some { target, sets := some sets, filter }
  return .insert res table columns rows upsert

/-- The actions of a foreign key: whether deleting a parent row deletes its children. -/
def foreignKeyActions : Parser Bool := do
  let mut cascade := false
  let src ← read
  for _ in [0:src.tokens.size] do
    if ← keyword? "on" then
      let onDelete ← if ← keyword? "delete" then pure true else do keyword "update"; pure false
      if ← keyword? "cascade" then cascade := cascade || onDelete
      else if ← keyword? "restrict" then pure ()
      else if ← keyword? "set" then
        if ← keyword? "null" then pure () else keyword "default"
      else
        keyword "no"
        keyword "action"
    else if ← keyword? "match" then let _ ← name
    else break
  if ← keyword? "not" then keyword "deferrable"
  else let _ ← keyword? "deferrable"
  if ← keyword? "initially" then
    if ← keyword? "deferred" then pure () else keyword "immediate"
  return cascade

/-- A default value: a literal, a signed number, a word, or an expression in
parentheses. -/
def defaultValue (fuel : Nat) : Parser Expr := do
  if ← atSymbol "(" then
    advance
    let e ← expr fuel 0
    symbol ")"
    return e
  if ← symbol? "-" then return .neg (← primary fuel)
  if ← symbol? "+" then return ← primary fuel
  match ← peek with
  | some t =>
    let reserved := ["null", "current_timestamp", "current_date", "current_time", "true", "false"]
    if t.kind == .word && !reserved.contains (lowerWord t.raw) then
      advance
      return .lit (.text t.raw)
    else primary fuel
  | none => failHere

/-- The definition of one column. -/
def columnDef (fuel : Nat) : Parser ColumnDef := do
  let n ← name
  let ty ← typeName
  let mut c : ColumnDef := { name := n, type := ty }
  let src ← read
  for _ in [0:src.tokens.size] do
    if ← keyword? "constraint" then let _ ← name
    if ← keyword? "primary" then
      keyword "key"
      let desc ← keyword? "desc"
      if !desc then let _ ← keyword? "asc"
      conflictClause
      let auto ← keyword? "autoincrement"
      c := { c with primaryKey := true, descending := desc, autoincrement := auto }
    else if ← keyword? "not" then
      keyword "null"
      conflictClause
      c := { c with notNull := true }
    else if ← keyword? "null" then pure ()
    else if ← keyword? "unique" then
      conflictClause
      c := { c with unique := true }
    else if ← keyword? "check" then
      symbol "("
      let opening ← get
      let e ← expr fuel 0
      let text ← spanText opening (← get)
      symbol ")"
      c := { c with check := some (e, text) }
    else if ← keyword? "default" then
      c := { c with initial := some (← defaultValue fuel) }
    else if ← keyword? "collate" then let _ ← name
    else if ← keyword? "references" then
      let parent ← name
      let cols ← if ← atSymbol "(" then nameList else pure []
      let cascade ← foreignKeyActions
      c := { c with references := some (parent, cols, cascade) }
    else break
  return c

/-- A constraint on the whole table, if one comes next. -/
def tableConstraint? (fuel : Nat) : Parser (Option TableConstraint) := do
  if ← keyword? "constraint" then let _ ← name
  if ← keyword? "primary" then
    keyword "key"
    let cols ← nameList
    conflictClause
    return some (.primaryKey cols)
  if ← keyword? "unique" then
    let cols ← nameList
    conflictClause
    return some (.unique cols)
  if ← keyword? "check" then
    symbol "("
    let opening ← get
    let e ← expr fuel 0
    let text ← spanText opening (← get)
    symbol ")"
    return some (.check e text)
  if ← keyword? "foreign" then
    keyword "key"
    let cols ← nameList
    keyword "references"
    let parent ← name
    let pcols ← if ← atSymbol "(" then nameList else pure []
    let cascade ← foreignKeyActions
    return some (.foreignKey cols parent pcols cascade)
  return none

/-- Whether a table constraint starts at the reading position. -/
def atTableConstraint : Parser Bool := do
  return (← atKeyword "constraint") || (← atKeyword "primary") || (← atKeyword "unique") ||
    (← atKeyword "check") || (← atKeyword "foreign")

/-- `CREATE TABLE`, after `TABLE`. -/
def createTable (fuel : Nat) (start : Nat) : Parser Stmt := do
  let ifNotExists ← if ← keyword? "if" then do keyword "not"; keyword "exists"; pure true else pure false
  let n ← objectName
  symbol "("
  let mut columns : Array ColumnDef := #[]
  let mut constraints : Array TableConstraint := #[]
  let src ← read
  for _ in [0:src.tokens.size] do
    if ← atTableConstraint then
      match ← tableConstraint? fuel with
      | some tc => constraints := constraints.push tc
      | none => failHere
    else
      if !constraints.isEmpty then failHere
      columns := columns.push (← columnDef fuel)
    if !(← symbol? ",") then break
  symbol ")"
  for _ in [0:2] do
    if ← keyword? "without" then
      let _ ← name
    else if ← keyword? "strict" then pure ()
    let _ ← symbol? ","
  let text ← spanText start (← get)
  return .createTable ifNotExists n columns.toList constraints.toList text

/-- `CREATE INDEX`, after `INDEX`. -/
def createIndex (fuel : Nat) (start : Nat) (unique : Bool) : Parser Stmt := do
  let ifNotExists ← if ← keyword? "if" then do keyword "not"; keyword "exists"; pure true else pure false
  let n ← objectName
  keyword "on"
  let table ← name
  symbol "("
  let mut cols : Array String := #[]
  let src ← read
  for _ in [0:src.tokens.size] do
    cols := cols.push (← name)
    if ← keyword? "collate" then let _ ← name
    if !(← keyword? "desc") then let _ ← keyword? "asc"
    if !(← symbol? ",") then break
  symbol ")"
  let filter ← if ← keyword? "where" then some <$> expr fuel 0 else pure none
  let text ← spanText start (← get)
  return .createIndex unique ifNotExists n table cols.toList filter text

/-- A statement of a trigger's body. -/
def bodyStatement (fuel : Nat) : Parser Stmt := do
  if ← atKeyword "select" then return .select (← select fuel)
  if ← keyword? "insert" then
    let res ← if ← keyword? "or" then resolution else pure .abort
    return ← insert fuel res
  if ← keyword? "replace" then return ← insert fuel .replace
  if ← keyword? "update" then
    let res ← if ← keyword? "or" then resolution else pure .abort
    let table ← name
    keyword "set"
    let sets ← settings fuel
    let filter ← if ← keyword? "where" then some <$> expr fuel 0 else pure none
    return .update res table sets filter
  if ← keyword? "delete" then
    keyword "from"
    let table ← name
    let filter ← if ← keyword? "where" then some <$> expr fuel 0 else pure none
    return .delete table filter
  failHere

/-- `CREATE TRIGGER`, after `TRIGGER`. -/
def createTrigger (fuel : Nat) (start : Nat) : Parser Stmt := do
  let ifNotExists ← if ← keyword? "if" then do keyword "not"; keyword "exists"; pure true else pure false
  let n ← objectName
  let timing ← if ← keyword? "before" then pure Timing.before
    else if ← keyword? "after" then pure Timing.after
    else if ← keyword? "instead" then do keyword "of"; pure Timing.insteadOf
    else pure Timing.before
  let event ← if ← keyword? "insert" then pure Event.insert
    else if ← keyword? "delete" then pure Event.delete
    else if ← keyword? "update" then do
      if ← keyword? "of" then
        let mut cols := #[← name]
        let src ← read
        for _ in [0:src.tokens.size] do
          if ← symbol? "," then cols := cols.push (← name) else break
        pure (Event.update cols.toList)
      else pure (Event.update [])
    else failHere
  keyword "on"
  let table ← objectName
  if ← keyword? "for" then
    keyword "each"
    keyword "row"
  let condition ← if ← keyword? "when" then some <$> expr fuel 0 else pure none
  keyword "begin"
  let mut body : Array Stmt := #[]
  let src ← read
  for _ in [0:src.tokens.size] do
    body := body.push (← bodyStatement fuel)
    match ← peek with
    | some t => if t.kind == .semicolon then advance else failHere
    | none => failHere
    if ← keyword? "end" then break
  let text ← spanText start (← get)
  return .createTrigger ifNotExists n timing event table condition body.toList text

/-- The value of a `PRAGMA`: a signed number, a word or a string. -/
def pragmaValue : Parser Value := do
  let neg ← symbol? "-"
  if !neg then let _ ← symbol? "+"
  let some t ← peek | failHere
  advance
  match t.kind with
  | .number => return if neg then (numberValue t.raw).neg else numberValue t.raw
  | .word | .quotedName | .string => return .text t.value
  | _ => failHere

/-- One statement, without its semicolon. -/
def statement (fuel : Nat) : Parser Stmt := do
  let start ← get
  if ← atKeyword "select" then return .select (← select fuel)
  if ← keyword? "insert" then
    let res ← if ← keyword? "or" then resolution else pure .abort
    return ← insert fuel res
  if ← keyword? "replace" then return ← insert fuel .replace
  if ← keyword? "update" then
    let res ← if ← keyword? "or" then resolution else pure .abort
    let table ← objectName
    keyword "set"
    let sets ← settings fuel
    let filter ← if ← keyword? "where" then some <$> expr fuel 0 else pure none
    return .update res table sets filter
  if ← keyword? "delete" then
    keyword "from"
    let table ← objectName
    let filter ← if ← keyword? "where" then some <$> expr fuel 0 else pure none
    return .delete table filter
  if ← keyword? "create" then
    if ← keyword? "temp" then pure () else let _ ← keyword? "temporary"
    if ← keyword? "table" then return ← createTable fuel start
    if ← keyword? "unique" then
      keyword "index"
      return ← createIndex fuel start true
    if ← keyword? "index" then return ← createIndex fuel start false
    if ← keyword? "view" then
      let ifNotExists ← if ← keyword? "if" then do keyword "not"; keyword "exists"; pure true else pure false
      let n ← objectName
      keyword "as"
      let q ← select fuel
      let text ← spanText start (← get)
      return .createView ifNotExists n q text
    if ← keyword? "trigger" then return ← createTrigger fuel start
    failHere
  if ← keyword? "drop" then
    let kind ← if ← keyword? "table" then pure ObjectKind.table
      else if ← keyword? "index" then pure ObjectKind.index
      else if ← keyword? "view" then pure ObjectKind.view
      else if ← keyword? "trigger" then pure ObjectKind.trigger
      else failHere
    let ifExists ← if ← keyword? "if" then do keyword "exists"; pure true else pure false
    return .drop kind ifExists (← objectName)
  if ← keyword? "pragma" then
    let n ← objectName
    if ← symbol? "=" then return .pragma (lowerWord n) (some (← pragmaValue))
    if ← symbol? "(" then
      let v ← pragmaValue
      symbol ")"
      return .pragma (lowerWord n) (some v)
    return .pragma (lowerWord n) none
  if ← keyword? "begin" then
    if ← keyword? "deferred" then pure ()
    else if ← keyword? "immediate" then pure ()
    else let _ ← keyword? "exclusive"
    if ← keyword? "transaction" then let _ ← name?
    return .begin
  if (← keyword? "commit") || (← keyword? "end") then
    if ← keyword? "transaction" then let _ ← name?
    return .commit
  if ← keyword? "rollback" then
    if ← keyword? "transaction" then let _ ← name?
    return .rollback
  failHere

end Parser

/-- Reads the first statement of a text: the statement (none when the text holds only space,
comments or a lone semicolon) and the byte offset where the rest of the text begins. -/
def prepare (text : String) : Except SyntaxError (Option Stmt × Nat) :=
  let (tokens, bad) := tokenize text
  let src : Source := { tokens, bad, text }
  let whole := text.utf8ByteSize
  let afterSemicolon (i : Nat) : Nat :=
    match tokens[i]? with
    | some t => t.offset + 1
    | none => whole
  match tokens[0]? with
  | none =>
    match bad with
    | some e => .error { message := "unrecognized token: \"" ++ e.raw ++ "\"", offset := some e.offset }
    | none => .ok (none, whole)
  | some t =>
    if t.kind == .semicolon then .ok (none, t.offset + 1) else
    let run : Parser Stmt := do
      let s ← Parser.statement (16 * (tokens.size + 1))
      match ← Parser.peek with
      | some t => if t.kind == .semicolon then pure s else Parser.failHere
      | none => if bad.isSome then Parser.failHere else pure s
    match (run.run 0).run src with
    | .ok (s, pos) => .ok (some s, afterSemicolon pos)
    | .error e => .error e

end SubtitleQueue.Sql
