import SubtitleQueue.Sql.Connection
import SubtitleQueue.Failure
import SubtitleQueue.Log
import SubtitleQueue.Time.Duration

/-!
How the queue talks to its database: statements with numbered parameters, rows read back as
typed values, and transactions that keep their changes only when the whole body succeeds.

A cell is read as the type the queue expects of it. A whole number reads as a number or a
flag, text as text; `NULL` only where a value may be missing. Any other cell is refused with
its type, position and column name. A query that must give a row and gives none fails with
`Query returned no rows`.

Rows are stamped with the time they were written. The stamps given out only increase, so
ordering by them is ordering by when rows were written.
-/

namespace SubtitleQueue.Store

open Sql

/-- An open database as the queue holds it: the connection, the clock, how many stamps have
been given, and the log lines written by the operations. -/
structure Store where
  conn : Connection
  now : Nat := 0
  stamps : Nat := 0
  log : Array Log.LogLine := #[]
  deriving Inhabited

/-- Operations on the store that may fail; a failure keeps what the store holds by then. -/
abbrev StoreOp := ExceptT Fault (StateM Store)

/-- A failure of SQL text as a fault: its message, and the line naming its result code. -/
def SqlFailure.fault (f : SqlFailure) : Fault :=
  let place := match f.error.offset with
    | some o => " in " ++ f.statement ++ " at offset " ++ toString o
    | none => ""
  { cause := .store (f.error.message ++ place)
      ("Error code " ++ toString f.error.code ++ ": " ++ codeText f.error.code) }

/-- Whether a fault is a broken constraint of the store. -/
def isConstraintFault (f : Fault) : Bool :=
  match f.cause with
  | .store _ code =>
    -- the code line reads `Error code N: …`
    let digits := ((code.drop 11).toString.takeWhile Char.isDigit).toString
    match digits.toNat? with
    | some n => Sql.isConstraint n
    | none => false
  | _ => false

/-- A row of a query: the names of its columns and its values. -/
structure Row where
  columns : List String
  values : Array Value
  deriving Inhabited

namespace Row

/-- The name of a cell's type. -/
def typeName : Value → String
  | .null => "Null"
  | .int _ => "Integer"
  | .real _ _ => "Real"
  | .text _ => "Text"
  | .blob _ => "Blob"

/-- The refusal of a cell that is not of the type wanted. -/
def wrongType {α : Type} (r : Row) (i : Nat) : Except Fault α :=
  .error (Fault.msg ("Invalid column type " ++ typeName (r.values[i]?.getD .null) ++
    " at index: " ++ toString i ++ ", name: " ++ (r.columns[i]?.getD "")))

/-- A whole number. -/
def int (r : Row) (i : Nat) : Except Fault Int :=
  match r.values[i]?.getD .null with
  | .int n => .ok n
  | _ => r.wrongType i

/-- A whole number that may be missing. -/
def int? (r : Row) (i : Nat) : Except Fault (Option Int) :=
  match r.values[i]?.getD .null with
  | .int n => .ok (some n)
  | .null => .ok none
  | _ => r.wrongType i

/-- A whole number that fits in 32 bits. -/
def int32 (r : Row) (i : Nat) : Except Fault Int :=
  match r.values[i]?.getD .null with
  | .int n =>
    if -2147483648 ≤ n && n < 2147483648 then .ok n
    else .error (Fault.msg ("Integer " ++ toString n ++ " is out of range at index " ++ toString i))
  | _ => r.wrongType i

/-- Text. -/
def text (r : Row) (i : Nat) : Except Fault String :=
  match r.values[i]?.getD .null with
  | .text s => .ok s
  | _ => r.wrongType i

/-- Text that may be missing. -/
def text? (r : Row) (i : Nat) : Except Fault (Option String) :=
  match r.values[i]?.getD .null with
  | .text s => .ok (some s)
  | .null => .ok none
  | _ => r.wrongType i

/-- A flag, stored as a whole number. -/
def bool (r : Row) (i : Nat) : Except Fault Bool :=
  match r.values[i]?.getD .null with
  | .int n => .ok (n != 0)
  | _ => r.wrongType i

/-- A flag that may be missing. -/
def bool? (r : Row) (i : Nat) : Except Fault (Option Bool) :=
  match r.values[i]?.getD .null with
  | .int n => .ok (some (n != 0))
  | .null => .ok none
  | _ => r.wrongType i

end Row

namespace StoreOp

/-- Fails with a fault. -/
def fail {α : Type} (f : Fault) : StoreOp α := throw f

/-- Takes a result that may have failed. -/
def lift {α : Type} (r : Except Fault α) : StoreOp α :=
  match r with
  | .ok a => pure a
  | .error f => throw f

/-- Writes a log line. -/
def log (level : Log.Level) (message : String) : StoreOp Unit :=
  modify fun s => { s with log := s.log.push { level, message } }

/-- The next time stamp: the clock, and a count that only increases. -/
def stamp : StoreOp String := do
  let s ← get
  set { s with stamps := s.stamps + 1 }
  -- the count goes in as microseconds after the clock's milliseconds
  return Time.preciseStamp s.now s.stamps

/-- Runs one statement with parameters. -/
def run (sql : String) (params : List Value) : StoreOp Outcome := do
  let s ← get
  let (conn, r) := s.conn.run sql params.toArray s.now
  set { s with conn }
  match r with
  | .ok o => pure o
  | .error f => throw (SqlFailure.fault f)

/-- Runs a change; how many rows it touched. -/
def execute (sql : String) (params : List Value) : StoreOp Nat := do
  return (← run sql params).changes

/-- The rows of a query. -/
def rows (sql : String) (params : List Value) : StoreOp (List Row) := do
  let o ← run sql params
  return o.rows.map fun vs => { columns := o.columns, values := vs }

/-- The first row of a query read by `f`, if there is one. -/
def firstRow? {α : Type} (sql : String) (params : List Value) (f : Row → Except Fault α) :
    StoreOp (Option α) := do
  match ← rows sql params with
  | r :: _ => return some (← lift (f r))
  | [] => return none

/-- The first row of a query read by `f`; a query without rows fails. -/
def firstRow {α : Type} (sql : String) (params : List Value) (f : Row → Except Fault α) :
    StoreOp α := do
  match ← firstRow? sql params f with
  | some a => pure a
  | none => throw (Fault.msg "Query returned no rows")

/-- Runs every statement of a text. -/
def batch (sql : String) : StoreOp Unit := do
  let s ← get
  let (conn, r) := s.conn.batch sql s.now
  set { s with conn }
  match r with
  | .ok () => pure ()
  | .error f => throw (SqlFailure.fault f)

/-- Runs a body as one transaction: if it fails, the database goes back to how it was. -/
def transaction {α : Type} (body : StoreOp α) : StoreOp α := do
  let s ← get
  if s.conn.saved.isSome then
    throw (SqlFailure.fault { error := { message := "cannot start a transaction within a transaction" } })
  let before := s.conn
  try body
  catch f =>
    modify fun s => { s with conn := before }
    throw f

end StoreOp

end SubtitleQueue.Store
