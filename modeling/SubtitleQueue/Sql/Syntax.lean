import SubtitleQueue.Sql.Value

/-!
The syntax of the statements the store runs: expressions, queries over one table, changes
to rows, the definitions of tables, indexes, views and triggers, and settings of the
connection. A trigger holds the statements of its body, so statements nest.

Column references keep the offset of their name in the statement text, because a reference
that names no column is reported at that offset.
-/

namespace SubtitleQueue.Sql

/-- Operators between two operands. -/
inductive BinOp where
  | eq | ne | lt | le | gt | ge
  | and | or
  | add | sub | mul | div | rem | concat
  | is | isNot
  deriving Repr, DecidableEq, Inhabited

/-- What `RAISE` does in a trigger. -/
inductive RaiseKind where
  | ignore | rollback | abort | fail
  deriving Repr, DecidableEq, Inhabited

/-- An expression. -/
inductive Expr where
  | lit (v : Value)
  | param (index : Nat)
  | column (table : Option String) (name : String) (offset : Nat)
  | neg (e : Expr)
  | not (e : Expr)
  | binary (op : BinOp) (a b : Expr)
  | isNull (e : Expr) (negated : Bool)
  | inList (e : Expr) (items : List Expr) (negated : Bool)
  | between (e lo hi : Expr) (negated : Bool)
  | like (e pattern : Expr) (negated : Bool)
  | call (name : String) (args : List Expr) (star : Bool) (offset : Nat)
  | case (operand : Option Expr) (arms : List (Expr × Expr)) (otherwise : Option Expr)
  | cast (e : Expr) (type : String)
  | raise (kind : RaiseKind) (message : String)
  deriving Repr, Inhabited

/-- One column of a query's result. -/
inductive ResultColumn where
  | star
  | expr (e : Expr) (name : String)
  deriving Repr, Inhabited

/-- A query over at most one table or view. -/
structure Select where
  distinct : Bool := false
  columns : List ResultColumn
  source : Option (String × Nat) := none
  filter : Option Expr := none
  orderBy : List (Expr × Bool) := []
  limit : Option Expr := none
  offset : Option Expr := none
  deriving Repr, Inhabited

/-- How a change resolves a broken constraint. -/
inductive Resolution where
  | abort | fail | ignore | replace | rollback
  deriving Repr, DecidableEq, Inhabited

/-- Where inserted rows come from. -/
inductive Rows where
  | values (rows : List (List Expr))
  | query (s : Select)
  | defaults
  deriving Repr, Inhabited

/-- What an insert does when it meets a row with the same key: nothing, or an update of that
row. -/
structure Upsert where
  target : List String
  sets : Option (List (String × Expr))
  filter : Option Expr := none
  deriving Repr, Inhabited

/-- The constraints a column's definition carries. -/
structure ColumnDef where
  name : String
  type : String := ""
  primaryKey : Bool := false
  descending : Bool := false
  autoincrement : Bool := false
  notNull : Bool := false
  unique : Bool := false
  initial : Option Expr := none
  check : Option (Expr × String) := none
  references : Option (String × List String × Bool) := none
  deriving Repr, Inhabited

/-- A constraint on the whole table. -/
inductive TableConstraint where
  | primaryKey (columns : List String)
  | unique (columns : List String)
  | check (e : Expr) (text : String)
  | foreignKey (columns : List String) (parent : String) (parentColumns : List String)
      (cascade : Bool)
  deriving Repr, Inhabited

/-- When a trigger runs. -/
inductive Timing where
  | before | after | insteadOf
  deriving Repr, DecidableEq, Inhabited

/-- The change a trigger watches. -/
inductive Event where
  | insert
  | delete
  | update (columns : List String)
  deriving Repr, DecidableEq, Inhabited

/-- The kinds of named objects. -/
inductive ObjectKind where
  | table | index | view | trigger
  deriving Repr, DecidableEq, Inhabited

/-- The name of a kind of object, as the catalogue lists it. -/
def ObjectKind.name : ObjectKind → String
  | .table => "table"
  | .index => "index"
  | .view => "view"
  | .trigger => "trigger"

/-- A statement. -/
inductive Stmt where
  | select (s : Select)
  | insert (resolution : Resolution) (table : String) (columns : Option (List String))
      (rows : Rows) (upsert : Option Upsert)
  | update (resolution : Resolution) (table : String) (sets : List (String × Expr))
      (filter : Option Expr)
  | delete (table : String) (filter : Option Expr)
  | createTable (ifNotExists : Bool) (name : String) (columns : List ColumnDef)
      (constraints : List TableConstraint) (text : String)
  | createIndex (unique ifNotExists : Bool) (name table : String) (columns : List String)
      (filter : Option Expr) (text : String)
  | createView (ifNotExists : Bool) (name : String) (query : Select) (text : String)
  | createTrigger (ifNotExists : Bool) (name : String) (timing : Timing) (event : Event)
      (table : String) (condition : Option Expr) (body : List Stmt) (text : String)
  | drop (kind : ObjectKind) (ifExists : Bool) (name : String)
  | pragma (name : String) (value : Option Value)
  | begin
  | commit
  | rollback
  deriving Repr, Inhabited

end SubtitleQueue.Sql
