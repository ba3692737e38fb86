import SubtitleQueue.Sql.Database
import SubtitleQueue.Time.Duration

/-!
The value of an expression over the rows in scope. A scope holds frames: the row of the table
a statement reads, and in a trigger the rows `NEW` and `OLD`. A plain column name is looked up
in the frames in order, a qualified one in the frame of that name.

Logic has three values: null stands for unknown, so `NULL AND 0` is false but `NULL AND 1`
is null. A comparison converts its operands by their affinities first: when one side is a
numeric column and the other is not, text on the other side that reads as a number becomes
that number; when one side is a text column and the other has no affinity, the other side
becomes text.

Evaluation stops at `RAISE`, which only a trigger runs, and at calls that cannot be made.
-/

namespace SubtitleQueue.Sql

/-- A row in scope: the name it goes by, its column names and affinities, its values and
its row id. -/
structure Frame where
  name : String
  columns : Array String
  affinities : Array Affinity
  values : Array Value
  rowid : Option Int := none
  deriving Repr, Inhabited

/-- The frame of a row of a table. -/
def Table.frame (t : Table) (name : String) (rowid : Int) (vals : Array Value) : Frame :=
  { name, columns := t.columnNames, affinities := t.columns.map (·.affinity), values := vals,
    rowid := some rowid }

/-- Why evaluation stopped: `RAISE(IGNORE)`, another `RAISE`, or an error. -/
inductive Interrupt where
  | ignore
  | raise (kind : RaiseKind) (message : String)
  | error (e : SqlError)
  deriving Repr, Inhabited

/-- What an expression is evaluated against: the rows in scope, the bound parameters, the
clock, and for an aggregate query the scopes of all the rows of the group. -/
structure Scope where
  frames : List Frame := []
  params : Array Value := #[]
  now : Nat := 0
  group : Option (List (List Frame)) := none
  deriving Inhabited

/-- The names of the row id. -/
def rowidNames : List String := ["rowid", "oid", "_rowid_"]

/-- The value of a column in one frame. -/
def Frame.lookup? (f : Frame) (n : String) : Option (Value × Option Affinity) :=
  match f.columns.findIdx? (sameName · n) with
  | some i => some (f.values[i]?.getD .null, f.affinities[i]?)
  | none =>
    if rowidNames.contains (lowerWord n) then
      f.rowid.map fun r => (.int r, some .integer)
    else none

/-- The value of a column reference and its affinity. -/
def Scope.column? (s : Scope) (table : Option String) (n : String) : Option (Value × Option Affinity) :=
  match table with
  | some q => (s.frames.find? (sameName ·.name q)).bind (·.lookup? n)
  | none => s.frames.findSome? (·.lookup? n)

/-- The affinity of an expression: a column's, a cast's, or none. -/
def Scope.affinity (s : Scope) : Expr → Option Affinity
  | .column t n _ => (s.column? t n).bind (·.2)
  | .cast _ ty => some (Affinity.ofType ty)
  | _ => none

/-- Whether an affinity is a numeric one. -/
def Affinity.isNumeric : Affinity → Bool
  | .integer | .real | .numeric => true
  | _ => false

/-- Converts the operands of a comparison by their affinities. -/
def compareOperands (a b : Value) (fa fb : Option Affinity) : Value × Value :=
  let numericA := (fa.map Affinity.isNumeric).getD false
  let numericB := (fb.map Affinity.isNumeric).getD false
  let noneOrText (f : Option Affinity) := f.isNone || f == some .text || f == some .blob
  let noneOnly (f : Option Affinity) := f.isNone || f == some .blob
  if numericA && noneOrText fb then (a, b.withAffinity .numeric)
  else if numericB && noneOrText fa then (a.withAffinity .numeric, b)
  else if fa == some .text && noneOnly fb then (a, b.withAffinity .text)
  else if fb == some .text && noneOnly fa then (a.withAffinity .text, b)
  else (a, b)

/-- A truth value as a number. -/
def truth (b : Bool) : Value := .int (if b then 1 else 0)

/-- A comparison of two values with affinities: null if either is null. -/
def compareWith (op : BinOp) (a b : Value) (fa fb : Option Affinity) : Value :=
  match a, b with
  | .null, _ | _, .null => .null
  | _, _ =>
    let (x, y) := compareOperands a b fa fb
    let o := Value.order x y
    truth <| match op with
      | .eq => o == .eq
      | .ne => o != .eq
      | .lt => o == .lt
      | .le => o != .gt
      | .gt => o == .gt
      | .ge => o != .lt
      | _ => false

/-- Whether two values are the same for `IS`: two nulls are. -/
def isSame (a b : Value) (fa fb : Option Affinity) : Bool :=
  match a, b with
  | .null, .null => true
  | .null, _ | _, .null => false
  | _, _ => let (x, y) := compareOperands a b fa fb; Value.order x y == .eq

/-- Whether a text matches a `LIKE` pattern: `%` any run, `_` any one character, letters
of ASCII without regard to case. -/
def likeMatch (pat text : List Char) : Bool :=
  go pat text (pat.length * (text.length + 1) + pat.length + 1)
where
  /-- Matches with a bound on the steps. -/
  go : List Char → List Char → Nat → Bool
    | _, _, 0 => false
    | [], t, _ => t.isEmpty
    | '%' :: ps, t, fuel + 1 => go ps t fuel || (match t with
        | _ :: ts => go ('%' :: ps) ts fuel
        | [] => false)
    | '_' :: ps, t, fuel + 1 => match t with
        | _ :: ts => go ps ts fuel
        | [] => false
    | p :: ps, t, fuel + 1 => match t with
        | c :: ts => (p == c || (p.toNat < 128 && c.toNat < 128 && p.toLower == c.toLower)) && go ps ts fuel
        | [] => false

/-- Three-valued `AND`. -/
def andValue (a b : Value) : Value :=
  let isFalse (v : Value) := v != .null && !v.isTrue
  if isFalse a || isFalse b then truth false
  else if a == .null || b == .null then .null else truth true

/-- Three-valued `OR`. -/
def orValue (a b : Value) : Value :=
  if (a != .null && a.isTrue) || (b != .null && b.isTrue) then truth true
  else if a == .null || b == .null then .null else truth false

/-- The date and time of an instant as `YYYY-MM-DD HH:MM:SS`. -/
def dateTimeText (ms : Nat) : String :=
  let secs := ms / 1000
  let (y, mo, d) := Time.civilDate (secs / 86400)
  let t := secs % 86400
  Time.padded 4 y ++ "-" ++ Time.padded 2 mo ++ "-" ++ Time.padded 2 d ++ " " ++
    Time.padded 2 (t / 3600) ++ ":" ++ Time.padded 2 (t / 60 % 60) ++ ":" ++ Time.padded 2 (t % 60)

/-- A value converted to a type named in a cast. -/
def castTo (ty : String) (v : Value) : Value :=
  match v with
  | .null => .null
  | _ =>
    match Affinity.ofType ty with
    | .text => .text (v.asText?.getD "")
    | .blob => match v with
      | .blob b => .blob b
      | _ => .blob (v.asText?.getD "").toUTF8.toList
    | .integer => match v.asNumber with
      | .int i => .int i
      | .real neg r => .int ((Value.realFraction neg r).map (fun (a, b) => a.tdiv b) |>.getD 0)
      | _ => .int 0
    | .real => match v.asNumber with
      | .int i => Value.intToReal i
      | n => n
    | .numeric => match v with
      | .text s => (Value.parseNumber? s).getD v.asNumber
      | _ => v.asNumber

/-- The aggregate functions, which take their argument over all rows of a group. -/
def aggregateNames : List String := ["count", "sum", "total", "avg", "min", "max", "group_concat"]

/-- Whether a call is to an aggregate: `count(*)`, or a one-argument aggregate. -/
def isAggregateCall (n : String) (args : Nat) (star : Bool) : Bool :=
  (star && n == "count") || (args == 1 && aggregateNames.contains n) ||
    (n == "group_concat" && args == 2)

/-- The value of an aggregate over the values of its argument in each row. -/
def aggregate (n : String) (vals : List Value) (rows : Nat) (star : Bool) : Value :=
  let present := vals.filter (· != .null)
  match n with
  | "count" => .int (if star then rows else present.length)
  | "sum" => if present.isEmpty then .null else present.foldl Value.add (.int 0)
  | "total" => match present.foldl Value.add (.int 0) with
    | .int i => Value.intToReal i
    | v => v
  | "avg" => if present.isEmpty then .null
    else match (present.foldl Value.add (.int 0)).fraction? with
      | some (a, b) => Value.ofFraction (a < 0) a.natAbs (b * present.length)
      | none => .null
  | "min" => present.foldl (fun m v => if m == .null || Value.order v m == .lt then v else m) .null
  | "max" => present.foldl (fun m v => if m == .null || Value.order v m == .gt then v else m) .null
  | "group_concat" => if present.isEmpty then .null
    else .text (",".intercalate (present.map fun v => v.asText?.getD ""))
  | _ => .null

/-- The value of a scalar function, or an error for a name or argument count it does not
have. -/
def scalar (now : Nat) (n : String) (args : List Value) (offset : Nat) : Except Interrupt Value :=
  let wrong : Except Interrupt Value :=
    .error (.error { message := "wrong number of arguments to function " ++ n ++ "()" })
  let text (v : Value) := v.asText?.getD ""
  match n, args with
  | "abs", [v] => pure <| match v.asNumber with
    | .int i => .int i.natAbs
    | .real _ r => .real false r
    | _ => if v == .null then .null else .int 0
  | "coalesce", vs => if vs.length < 2 then wrong else pure ((vs.find? (· != .null)).getD .null)
  | "ifnull", [a, b] => pure (if a == .null then b else a)
  | "nullif", [a, b] => pure (if isSame a b none none then .null else a)
  | "iif", [c, a, b] => pure (if c.isTrue then a else b)
  | "length", [v] => pure <| match v with
    | .null => .null
    | .blob bs => .int bs.length
    | _ => .int (text v).length
  | "lower", [v] => pure <| if v == .null then .null else .text (String.map (fun c => if c.toNat < 128 then c.toLower else c) (text v))
  | "upper", [v] => pure <| if v == .null then .null else .text (String.map (fun c => if c.toNat < 128 then c.toUpper else c) (text v))
  | "max", vs => if vs.length < 2 then wrong else pure <|
      if vs.contains .null then .null
      else vs.foldl (fun m v => if m == .null || Value.order v m == .gt then v else m) .null
  | "min", vs => if vs.length < 2 then wrong else pure <|
      if vs.contains .null then .null
      else vs.foldl (fun m v => if m == .null || Value.order v m == .lt then v else m) .null
  | "typeof", [v] => pure (.text v.typeName)
  | "trim", [v] => pure <| if v == .null then .null else .text (String.ofList (trimSpace (text v).toList |>.dropWhile (· == ' ') |>.reverse.dropWhile (· == ' ') |>.reverse))
  | "substr", v :: start :: rest => pure <|
      if v == .null then .null else
      let cs := (text v).toList
      let s : Int := match start.asNumber with
        | .int i => i
        | _ => 1
      let len : Option Int := rest.head?.map fun l => match l.asNumber with
        | .int i => i
        | _ => 0
      let from0 : Int := if s > 0 then s - 1 else if s == 0 then 0 else max 0 (cs.length + s)
      let stop : Int := match len with
        | some l => if s == 0 then from0 + l - 1 else from0 + l
        | none => cs.length
      .text (String.ofList ((cs.drop from0.toNat).take (stop - from0).toNat))
  | "replace", [v, a, b] => pure <|
      if v == .null || a == .null || b == .null then .null
      else if (text a).isEmpty then v else .text ((text v).replace (text a) (text b))
  | "instr", [a, b] => pure <|
      if a == .null || b == .null then .null else
      let hay := (text a).toList
      let needle := (text b).toList
      let idx := (List.range (hay.length + 1)).find? fun i => needle.isPrefixOf (hay.drop i)
      .int (match idx with
        | some i => i + 1
        | none => 0)
  | "hex", [v] => pure <|
      let bytes := match v with
        | .blob bs => bs
        | _ => (text v).toUTF8.toList
      .text (String.join (bytes.map fun b =>
        let h := Nat.toDigits 16 b.toNat
        String.ofList ((if h.length < 2 then ['0'] else []) ++ h.map Char.toUpper)))
  | "quote", [v] => pure <| match v with
    | .null => .text "NULL"
    | .text s => .text ("'" ++ s.replace "'" "''" ++ "'")
    | _ => .text (text v)
  | "datetime", [.text "now"] => pure (.text (dateTimeText now))
  | "date", [.text "now"] => pure (.text ((dateTimeText now).take 10).toString)
  | "time", [.text "now"] => pure (.text ((dateTimeText now).drop 11).toString)
  | "datetime", _ | "date", _ | "time", _ => pure .null
  | "unixepoch", _ => pure (.int (now / 1000))
  | _, _ =>
    if ["abs", "ifnull", "nullif", "iif", "length", "lower", "upper", "typeof", "trim", "substr",
        "replace", "instr", "hex", "quote"].contains n then wrong
    else .error (.error { message := "no such function: " ++ n, offset := some offset })

mutual

/-- The value of an expression in a scope. -/
def eval (s : Scope) : Expr → Except Interrupt Value
  | .lit v => pure v
  | .param i => pure (s.params[i - 1]?.getD .null)
  | .column t n off =>
    match s.column? t n with
    | some (v, _) => pure v
    | none =>
      let full := match t with
        | some q => q ++ "." ++ n
        | none => n
      if s.frames.isEmpty && s.group.isSome then pure .null
      else .error (.error { message := "no such column: " ++ full, offset := some off })
  | .neg e => do return (← eval s e).neg
  | .not e => do
    let v ← eval s e
    return if v == .null then .null else truth (!v.isTrue)
  | .binary op a b => do
    let x ← eval s a
    let y ← eval s b
    let fa := s.affinity a
    let fb := s.affinity b
    return match op with
      | .and => andValue x y
      | .or => orValue x y
      | .add => x.add y
      | .sub => x.sub y
      | .mul => x.mul y
      | .div => x.div y
      | .rem => x.rem y
      | .concat => match x.asText?, y.asText? with
        | some p, some q => .text (p ++ q)
        | _, _ => .null
      | .is => truth (isSame x y fa fb)
      | .isNot => truth (!isSame x y fa fb)
      | _ => compareWith op x y fa fb
  | .isNull e negated => do
    let v ← eval s e
    return truth ((v == .null) != negated)
  | .inList e items negated => do
    let v ← eval s e
    let vs ← evalList s items
    let fa := s.affinity e
    if v == .null then return .null
    if vs.any (fun w => compareWith .eq v w fa none == .int 1) then return truth (!negated)
    if vs.contains .null then return .null
    return truth negated
  | .between e lo hi negated => do
    let v ← eval s e
    let l ← eval s lo
    let h ← eval s hi
    let fa := s.affinity e
    let r := andValue (compareWith .ge v l fa (s.affinity lo)) (compareWith .le v h fa (s.affinity hi))
    return if negated then (if r == .null then .null else truth (!r.isTrue)) else r
  | .like e pat negated => do
    let v ← eval s e
    let p ← eval s pat
    match v.asText?, p.asText? with
    | some t, some q => return truth (likeMatch q.toList t.toList != negated)
    | _, _ => return .null
  | .call n args star off => do
    if isAggregateCall n args.length star then
      match s.group with
      | some rows =>
        let vals ← if star then pure [] else
          rows.mapM fun fs => do
            match ← evalList { s with frames := fs, group := none } args with
            | v :: _ => pure v
            | [] => pure Value.null
        return aggregate n vals rows.length star
      | none =>
        .error (.error { message := "misuse of aggregate function " ++ n ++ "()" })
    else
      let vs ← evalList s args
      scalar s.now n vs off
  | .case operand arms otherwise => do
    let o ← match operand with
      | some e => some <$> eval s e
      | none => pure none
    match ← evalArms s o arms with
    | some v => return v
    | none => match otherwise with
      | some e => eval s e
      | none => return .null
  | .cast e ty => do return castTo ty (← eval s e)
  | .raise kind msg => .error (if kind == .ignore then .ignore else .raise kind msg)

/-- The values of a list of expressions. -/
def evalList (s : Scope) : List Expr → Except Interrupt (List Value)
  | [] => pure []
  | e :: es => do return (← eval s e) :: (← evalList s es)

/-- The result of the first arm of a `CASE` whose test holds. -/
def evalArms (s : Scope) (operand : Option Value) : List (Expr × Expr) → Except Interrupt (Option Value)
  | [] => pure none
  | (test, result) :: rest => do
    let t ← eval s test
    let hit : Bool := match operand with
      | some o => compareWith .eq o t none none == .int 1
      | none => t.isTrue
    if hit then return some (← eval s result) else evalArms s operand rest

end

/-- Whether a condition holds: true, not false or null. -/
def holds (s : Scope) (e : Option Expr) : Except Interrupt Bool :=
  match e with
  | none => pure true
  | some c => do return (← eval s c).isTrue

mutual

/-- Whether an expression calls an aggregate. -/
def Expr.hasAggregate : Expr → Bool
  | .call n args star _ => isAggregateCall n args.length star || Expr.anyAggregate args
  | .neg e | .not e | .isNull e _ | .cast e _ => e.hasAggregate
  | .binary _ a b | .like a b _ => a.hasAggregate || b.hasAggregate
  | .inList e items _ => e.hasAggregate || Expr.anyAggregate items
  | .between e lo hi _ => e.hasAggregate || lo.hasAggregate || hi.hasAggregate
  | .case o arms d => (match o with
      | some e => e.hasAggregate
      | none => false) || Expr.armsAggregate arms || (match d with
      | some e => e.hasAggregate
      | none => false)
  | _ => false

/-- Whether any expression of a list calls an aggregate. -/
def Expr.anyAggregate : List Expr → Bool
  | [] => false
  | e :: es => e.hasAggregate || Expr.anyAggregate es

/-- Whether any arm of a `CASE` calls an aggregate. -/
def Expr.armsAggregate : List (Expr × Expr) → Bool
  | [] => false
  | (a, b) :: rest => a.hasAggregate || b.hasAggregate || Expr.armsAggregate rest

end

mutual

/-- The first failure to resolve a name in an expression: a column no frame has, a function
that does not exist, or `RAISE` outside a trigger. Frames are given by name and columns. -/
def Expr.unresolved (frames : List (String × Array String)) (inTrigger : Bool) : Expr → Option SqlError
  | .column t n off =>
    let found := match t with
      | some q => frames.any fun (f, cs) => sameName f q && (cs.any (sameName · n) || rowidNames.contains (lowerWord n))
      | none => frames.any fun (_, cs) => cs.any (sameName · n) || rowidNames.contains (lowerWord n)
    let full := match t with
      | some q => q ++ "." ++ n
      | none => n
    if found then none
    else some { message := "no such column: " ++ full, offset := some off }
  | .neg e | .not e | .isNull e _ | .cast e _ => e.unresolved frames inTrigger
  | .binary _ a b | .like a b _ => (a.unresolved frames inTrigger).orElse fun _ => b.unresolved frames inTrigger
  | .inList e items _ => (e.unresolved frames inTrigger).orElse fun _ => Expr.unresolvedList frames inTrigger items
  | .between e lo hi _ => ((e.unresolved frames inTrigger).orElse fun _ => lo.unresolved frames inTrigger).orElse
      fun _ => hi.unresolved frames inTrigger
  | .call n args star off =>
    let known := isAggregateCall n args.length star ||
      ["abs", "coalesce", "ifnull", "nullif", "iif", "length", "lower", "upper", "max", "min",
       "typeof", "trim", "substr", "replace", "instr", "hex", "quote", "datetime", "date", "time",
       "unixepoch"].contains n
    if known then Expr.unresolvedList frames inTrigger args
    else some { message := "no such function: " ++ n, offset := some off }
  | .case o arms d =>
    let first := match o with
      | some e => e.unresolved frames inTrigger
      | none => none
    (first.orElse fun _ => Expr.unresolvedArms frames inTrigger arms).orElse fun _ => match d with
      | some e => e.unresolved frames inTrigger
      | none => none
  | .raise _ _ => if inTrigger then none
      else some { message := "RAISE() may only be used within a trigger-program" }
  | _ => none

/-- The first failure to resolve a name in a list of expressions. -/
def Expr.unresolvedList (frames : List (String × Array String)) (inTrigger : Bool) : List Expr → Option SqlError
  | [] => none
  | e :: es => (e.unresolved frames inTrigger).orElse fun _ => Expr.unresolvedList frames inTrigger es

/-- The first failure to resolve a name in the arms of a `CASE`. -/
def Expr.unresolvedArms (frames : List (String × Array String)) (inTrigger : Bool) : List (Expr × Expr) → Option SqlError
  | [] => none
  | (a, b) :: rest => ((a.unresolved frames inTrigger).orElse fun _ => b.unresolved frames inTrigger).orElse
      fun _ => Expr.unresolvedArms frames inTrigger rest

end

end SubtitleQueue.Sql
