import SubtitleQueue.Sql.Lexer
import SubtitleQueue.Sql.Syntax

/-!
Reading statements from tokens. The reader takes one statement at a time, up to its
semicolon, so that a batch runs each statement before the next is read.

A statement that does not read is reported at the token where it goes wrong: `near "…":
syntax error` at that token's offset, `unrecognized token: "…"` at text that is no token, and
`incomplete input` (without an offset) when the text ends too early. Operators bind as in
the usual SQL grammar: `OR`, then `AND`, then `NOT`, then equality and its kin (`IS`, `IN`,
`LIKE`, `BETWEEN`), then order comparisons, then bit operators, sums, products,
concatenation, and signs tightest.
-/

namespace SubtitleQueue.Sql

/-- A statement that does not read: the message, and the byte offset of the token it is
about, if any. -/
structure SyntaxError where
  message : String
  offset : Option Nat
  deriving Repr, Inhabited

/-- What the reader reads from: the tokens of the text, the text that is no token after
them, and the text itself. -/
structure Source where
  tokens : Array Token
  bad : Option LexError
  text : String

/-- Reading statements: a position among the tokens, or a syntax error. -/
abbrev Parser := StateT Nat (ReaderT Source (Except SyntaxError))

/-- The words that cannot be names. -/
def reserved : List String :=
  ["add", "all", "alter", "and", "as", "autoincrement", "between", "case", "check", "collate",
   "commit", "constraint", "create", "cross", "current_date", "current_time",
   "current_timestamp", "default", "deferrable", "delete", "distinct", "drop", "else",
   "escape", "except", "exists", "foreign", "from", "full", "group", "having", "in", "index",
   "indexed", "inner", "insert", "intersect", "into", "is", "isnull", "join", "left", "limit",
   "natural", "not", "notnull", "null", "on", "or", "order", "outer", "primary", "references",
   "returning", "right", "select", "set", "table", "then", "to", "transaction", "union",
   "unique", "update", "using", "values", "when", "where", "window"]

/-- The lower-case spelling of a word. -/
def lowerWord (s : String) : String := String.map Char.toLower s

namespace Parser

/-- The token at the reading position. -/
def peek : Parser (Option Token) := do
  let src ← read
  return src.tokens[← get]?

/-- The token after the one at the reading position. -/
def peekSecond : Parser (Option Token) := do
  let src ← read
  return src.tokens[(← get) + 1]?

/-- Moves past one token. -/
def advance : Parser Unit := modify (· + 1)

/-- Fails at the token at the reading position. -/
def failHere {α : Type} : Parser α := do
  let src ← read
  match src.tokens[← get]? with
  | some t => throw { message := "near \"" ++ t.raw ++ "\": syntax error", offset := some t.offset }
  | none =>
    match src.bad with
    | some e => throw { message := "unrecognized token: \"" ++ e.raw ++ "\"", offset := some e.offset }
    | none => throw { message := "incomplete input", offset := none }

/-- Whether the next token is a given keyword. -/
def atKeyword (k : String) : Parser Bool := do
  match ← peek with
  | some t => return t.kind == .word && lowerWord t.raw == k
  | none => return false

/-- Takes a keyword if it comes next. -/
def keyword? (k : String) : Parser Bool := do
  if ← atKeyword k then advance; return true else return false

/-- Takes a keyword that must come next. -/
def keyword (k : String) : Parser Unit := do
  unless ← keyword? k do failHere

/-- Whether the next token is a given symbol. -/
def atSymbol (s : String) : Parser Bool := do
  match ← peek with
  | some t => return t.kind == .symbol && t.raw == s
  | none => return false

/-- Takes a symbol if it comes next. -/
def symbol? (s : String) : Parser Bool := do
  if ← atSymbol s then advance; return true else return false

/-- Takes a symbol that must come next. -/
def symbol (s : String) : Parser Unit := do
  unless ← symbol? s do failHere

/-- A name: a word that is not reserved, a quoted name, or a string. -/
def name? : Parser (Option String) := do
  match ← peek with
  | some t =>
    if (t.kind == .word && !reserved.contains (lowerWord t.raw)) then advance; return some t.raw
    else if t.kind == .quotedName || t.kind == .string then advance; return some t.value
    else return none
  | none => return none

/-- A name that must come next. -/
def name : Parser String := do
  match ← name? with
  | some n => return n
  | none => failHere

/-- A name that may be qualified by a schema, `main.` being the only one. -/
def objectName : Parser String := do
  let n ← name
  if ← symbol? "." then name else return n

/-- A parenthesized list of names. -/
def nameList : Parser (List String) := do
  symbol "("
  let mut names := #[← name]
  let src ← read
  for _ in [0:src.tokens.size] do
    if ← symbol? "," then names := names.push (← name) else break
  symbol ")"
  return names.toList

/-- The value of a number token: whole if it has no fraction or exponent and fits,
otherwise a double. -/
def numberValue (raw : String) : Value :=
  match raw.toList with
  | '0' :: x :: hex =>
    if x == 'x' || x == 'X' then
      let n : Nat := hex.foldl (fun (n : Nat) c => n * 16 + (if c.isDigit then c.toNat - 48
        else (c.toLower.toNat - 87))) 0
      -- hexadecimal literals are 64-bit patterns
      .int (if n ≥ Nat.pow 2 63 then Int.ofNat n - Int.ofNat (Nat.pow 2 64) else Int.ofNat n)
    else (Value.parseNumber? raw).getD (.int 0)
  | _ => (Value.parseNumber? raw).getD (.int 0)

/-- The bytes of a hexadecimal text. -/
def hexBytes (s : String) : List UInt8 :=
  let digit (c : Char) : Nat := if c.isDigit then c.toNat - 48 else c.toLower.toNat - 87
  let rec pairs : List Char → List UInt8
    | a :: b :: rest => (digit a * 16 + digit b).toUInt8 :: pairs rest
    | _ => []
  pairs s.toList

/-- The binding strength of an operator between two operands, if the token is one. -/
def binaryStrength (t : Token) : Option (Nat × BinOp) :=
  if t.kind == .symbol then
    match t.raw with
    | "=" | "==" => some (4, .eq)
    | "!=" | "<>" => some (4, .ne)
    | "<" => some (5, .lt)
    | "<=" => some (5, .le)
    | ">" => some (5, .gt)
    | ">=" => some (5, .ge)
    | "+" => some (7, .add)
    | "-" => some (7, .sub)
    | "*" => some (8, .mul)
    | "/" => some (8, .div)
    | "%" => some (8, .rem)
    | "||" => some (9, .concat)
    | _ => none
  else if t.kind == .word then
    match lowerWord t.raw with
    | "or" => some (1, .or)
    | "and" => some (2, .and)
    | _ => none
  else none

/-- A type name: words, with one or two numbers in parentheses. -/
def typeName : Parser String := do
  let mut words : Array String := #[]
  let src ← read
  for _ in [0:src.tokens.size] do
    match ← peek with
    | some t =>
      if (t.kind == .word && !reserved.contains (lowerWord t.raw)) || t.kind == .quotedName then
        advance; words := words.push t.value
      else break
    | none => break
  let mut text := " ".intercalate words.toList
  if !words.isEmpty && (← atSymbol "(") then
    advance
    let signed : Parser String := do
      let neg ← symbol? "-"
      if !neg then let _ ← symbol? "+"
      match ← peek with
      | some t => if t.kind == .number then advance; return (if neg then "-" else "") ++ t.raw else failHere
      | none => failHere
    text := text ++ "(" ++ (← signed)
    if ← symbol? "," then text := text ++ "," ++ (← signed)
    symbol ")"
    text := text ++ ")"
  return text

/-- Whether `NOT` is followed by `IN`, `LIKE`, `GLOB`, `BETWEEN` or `NULL`. -/
def notFollowedBySuffix : Parser Bool := do
  match ← peekSecond with
  | some t => return t.kind == .word &&
      ["in", "like", "glob", "between", "null"].contains (lowerWord t.raw)
  | none => return false

mutual

/-- An expression whose operators bind at least as strongly as `least`. -/
def expr (fuel : Nat) (least : Nat) : Parser Expr :=
  match fuel with
  | 0 => failHere
  | fuel + 1 => do
    let mut left ← if (← atKeyword "not") && least ≤ 3 then do
        advance
        let e ← expr fuel 3
        pure (Expr.not e)
      else unary fuel
    let src ← read
    for _ in [0:src.tokens.size] do
      let some t ← peek | break
      let word := if t.kind == .word then lowerWord t.raw else ""
      if least ≤ 4 && word == "is" then
        advance
        let negated ← keyword? "not"
        let right ← expr fuel 5
        left := .binary (if negated then .isNot else .is) left right
      else if least ≤ 4 && (word == "isnull" || word == "notnull") then
        advance
        left := .isNull left (word == "notnull")
      else if least ≤ 4 && (word == "in" || word == "like" || word == "between" || word == "glob" ||
          (word == "not" && (← notFollowedBySuffix))) then
        let negated := word == "not"
        if negated then advance
        let some t2 ← peek | failHere
        let w2 := lowerWord t2.raw
        if w2 == "null" && negated then
          advance
          left := .isNull left true
        else if w2 == "in" then
          advance
          symbol "("
          let items ← if ← atSymbol ")" then pure [] else exprList fuel
          symbol ")"
          left := .inList left items negated
        else if w2 == "like" || w2 == "glob" then
          advance
          let pat ← expr fuel 5
          left := .like left pat negated
        else if w2 == "between" then
          advance
          let lo ← expr fuel 5
          keyword "and"
          let hi ← expr fuel 5
          left := .between left lo hi negated
        else failHere
      else
        match binaryStrength t with
        | some (strength, op) =>
          if strength < least then break
          advance
          let right ← expr fuel (strength + 1)
          left := .binary op left right
        | none => break
    return left

/-- An operand with its signs. -/
def unary (fuel : Nat) : Parser Expr :=
  match fuel with
  | 0 => failHere
  | fuel + 1 => do
    if ← symbol? "-" then return .neg (← unary fuel)
    if ← symbol? "+" then return ← unary fuel
    let e ← primary fuel
    if ← keyword? "collate" then
      let _ ← name
      return e
    return e

/-- A comma-separated list of expressions. -/
def exprList (fuel : Nat) : Parser (List Expr) :=
  match fuel with
  | 0 => failHere
  | fuel + 1 => do
    let mut items := #[← expr fuel 0]
    let src ← read
    for _ in [0:src.tokens.size] do
      if ← symbol? "," then items := items.push (← expr fuel 0) else break
    return items.toList

/-- A literal, parameter, column, call, parenthesized expression, `CASE`, `CAST` or
`RAISE`. -/
def primary (fuel : Nat) : Parser Expr :=
  match fuel with
  | 0 => failHere
  | fuel + 1 => do
    let some t ← peek | failHere
    match t.kind with
    | .number => advance; return .lit (numberValue t.raw)
    | .string => advance; return .lit (.text t.value)
    | .bytes => advance; return .lit (.blob (hexBytes t.value))
    | .param =>
      advance
      -- the token holds only the digits after `?`, none for a bare `?`
      return .param (t.value.toList.foldl (fun n c => n * 10 + (c.toNat - 48)) 0)
    | .symbol =>
      if t.raw == "(" then
        advance
        let e ← expr fuel 0
        symbol ")"
        return e
      else failHere
    | .semicolon => failHere
    | .quotedName => columnOrCall fuel t
    | .word =>
      match lowerWord t.raw with
      | "null" => advance; return .lit .null
      | "current_timestamp" => advance; return .call "datetime" [.lit (.text "now")] false t.offset
      | "current_date" => advance; return .call "date" [.lit (.text "now")] false t.offset
      | "current_time" => advance; return .call "time" [.lit (.text "now")] false t.offset
      | "case" =>
        advance
        let operand ← if ← atKeyword "when" then pure none else some <$> expr fuel 0
        let mut arms : Array (Expr × Expr) := #[]
        let src ← read
        for _ in [0:src.tokens.size] do
          if ← keyword? "when" then
            let c ← expr fuel 0
            keyword "then"
            arms := arms.push (c, ← expr fuel 0)
          else break
        if arms.isEmpty then failHere
        let otherwise ← if ← keyword? "else" then some <$> expr fuel 0 else pure none
        keyword "end"
        return .case operand arms.toList otherwise
      | "cast" =>
        if (← peekSecond).map (·.raw) == some "(" then
          advance; advance
          let e ← expr fuel 0
          keyword "as"
          let ty ← typeName
          symbol ")"
          return .cast e ty
        else columnOrCall fuel t
      | "raise" =>
        if (← peekSecond).map (·.raw) == some "(" then
          advance; advance
          if ← keyword? "ignore" then
            symbol ")"
            return .raise .ignore ""
          let kind ← if ← keyword? "rollback" then pure RaiseKind.rollback
            else if ← keyword? "abort" then pure RaiseKind.abort
            else if ← keyword? "fail" then pure RaiseKind.fail
            else failHere
          symbol ","
          let some m ← peek | failHere
          unless m.kind == .string do failHere
          advance
          symbol ")"
          return .raise kind m.value
        else columnOrCall fuel t
      | w => if reserved.contains w then failHere else columnOrCall fuel t

/-- A column reference, qualified or not, or a function call. -/
def columnOrCall (fuel : Nat) (t : Token) : Parser Expr :=
  match fuel with
  | 0 => failHere
  | fuel + 1 => do
    advance
    let n := t.value
    if ← symbol? "(" then
      if ← symbol? "*" then
        symbol ")"
        return .call (lowerWord n) [] true t.offset
      if ← symbol? ")" then return .call (lowerWord n) [] false t.offset
      let _ ← keyword? "distinct"
      let args ← exprList fuel
      symbol ")"
      return .call (lowerWord n) args false t.offset
    if ← symbol? "." then
      let some c ← peek | failHere
      if c.kind == .word || c.kind == .quotedName then
        advance
        return .column (some n) c.value t.offset
      else failHere
    return .column none n t.offset

end

end Parser

end SubtitleQueue.Sql
