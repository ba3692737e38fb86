import SubtitleQueue.Sql.Value

/-!
Splitting statement text into tokens. Words are names or keywords (told apart by the parser,
without regard to case); names may also be quoted with double quotes, brackets or backticks.
Strings are in single quotes with the quote doubled inside; byte strings are `x'…'` with an
even number of hexadecimal digits; numbers are decimal, with an optional fraction and
exponent, or hexadecimal after `0x`. Parameters are `?` with an optional number. Space and
comments (`--` to the end of the line, `/* … */`) separate tokens.

Every token keeps its text as written and the byte offset where it starts, which is where
errors about it are reported.
-/

namespace SubtitleQueue.Sql

/-- The kinds of tokens. -/
inductive TokenKind where
  | word
  | quotedName
  | string
  | number
  | bytes
  | param
  | symbol
  | semicolon
  deriving Repr, DecidableEq, Inhabited

/-- A token: its kind, its text as written, what it stands for (a name without quotes, a
string's contents), and its byte offset. -/
structure Token where
  kind : TokenKind
  raw : String
  value : String
  offset : Nat
  deriving Repr, Inhabited

/-- A text that is not a token, at a byte offset. -/
structure LexError where
  raw : String
  offset : Nat
  deriving Repr, Inhabited

/-- Whether a character may start a word. -/
def isWordStart (c : Char) : Bool := c.isAlpha || c == '_' || c.toNat ≥ 0x80

/-- Whether a character may continue a word. -/
def isWordChar (c : Char) : Bool := isWordStart c || c.isDigit || c == '$'

/-- Whether a character is a hexadecimal digit. -/
def isHexDigit (c : Char) : Bool :=
  c.isDigit || ('a' ≤ c && c ≤ 'f') || ('A' ≤ c && c ≤ 'F')

/-- The number of bytes of some characters. -/
def byteLength (cs : List Char) : Nat := cs.foldl (fun n c => n + c.utf8Size) 0

/-- The symbols, longest first. -/
def symbols : List String :=
  ["||", "<=", ">=", "<>", "==", "!=", "<<", ">>", "=", "<", ">", "(", ")", ",", "+", "-", "*",
   "/", "%", ".", "&", "|", "~"]

/-- The characters up to the closing `close`, a doubled `close` standing for one; the
contents and the rest after the closing character, or `none` if it never closes. -/
def quotedRun (close : Char) : List Char → Option (List Char × List Char)
  | [] => none
  | c :: rest =>
    if c == close then
      match rest with
      | d :: more => if d == close then (quotedRun close more).map fun (s, r) => (c :: s, r)
          else some ([], rest)
      | [] => some ([], [])
    else (quotedRun close rest).map fun (s, r) => (c :: s, r)

/-- The length of a number at the front of some characters. -/
def numberLength (cs : List Char) : Nat :=
  match cs with
  | '0' :: x :: rest =>
    if (x == 'x' || x == 'X') && (rest.head?.map isHexDigit).getD false then
      2 + (rest.takeWhile isHexDigit).length
    else decimalLength cs
  | _ => decimalLength cs
where
  /-- Digits, an optional fraction and an optional exponent. -/
  decimalLength (cs : List Char) : Nat :=
    let whole := (cs.takeWhile Char.isDigit).length
    let rest := cs.drop whole
    let frac := match rest with
      | '.' :: more => 1 + (more.takeWhile Char.isDigit).length
      | _ => 0
    let rest := rest.drop frac
    let expo := match rest with
      | e :: more =>
        if e == 'e' || e == 'E' then
          let (sign, more) := match more with
            | s :: m => if s == '+' || s == '-' then (1, m) else (0, more)
            | [] => (0, more)
          let ds := (more.takeWhile Char.isDigit).length
          if ds > 0 then 1 + sign + ds else 0
        else 0
      | [] => 0
    whole + frac + expo

/-- One token at the front of some characters that do not start with space or a comment:
the token and how many characters it took. -/
def token (cs : List Char) (offset : Nat) : Except LexError (Token × Nat) :=
  let tok (kind : TokenKind) (n : Nat) (value : String) : Except LexError (Token × Nat) :=
    .ok ({ kind, raw := String.ofList (cs.take n), value, offset }, n)
  let bad (n : Nat) : Except LexError (Token × Nat) :=
    .error { raw := String.ofList (cs.take n), offset }
  match cs with
  | [] => bad 0
  | c :: rest =>
    if c == ';' then tok .semicolon 1 ";"
    else if c == '\'' then
      match quotedRun '\'' rest with
      | some (s, after) => tok .string (cs.length - after.length) (String.ofList s)
      | none => bad cs.length
    else if c == '"' || c == '`' then
      match quotedRun c rest with
      | some (s, after) => tok .quotedName (cs.length - after.length) (String.ofList s)
      | none => bad cs.length
    else if c == '[' then
      let name := rest.takeWhile (· != ']')
      if name.length < rest.length then tok .quotedName (name.length + 2) (String.ofList name)
      else bad cs.length
    else if (c == 'x' || c == 'X') && rest.head? == some '\'' then
      let body := (rest.drop 1).takeWhile (· != '\'')
      let n := 2 + body.length + 1
      if body.length + 1 < rest.length && body.all isHexDigit && body.length % 2 == 0 then
        tok .bytes n (String.ofList body)
      else bad (min n cs.length)
    else if c.isDigit || (c == '.' && (rest.head?.map Char.isDigit).getD false) then
      let n := numberLength cs
      let n := if n == 0 then 1 else n
      -- a number running straight into a word is not a token
      match cs.drop n with
      | d :: _ => if isWordChar d then bad (n + ((cs.drop n).takeWhile isWordChar).length)
          else tok .number n (String.ofList (cs.take n))
      | [] => tok .number n (String.ofList (cs.take n))
    else if c == '?' then
      let ds := rest.takeWhile Char.isDigit
      tok .param (1 + ds.length) (String.ofList ds)
    else if isWordStart c then
      let n := 1 + (rest.takeWhile isWordChar).length
      tok .word n (String.ofList (cs.take n))
    else
      match symbols.find? (fun s => s.toList.isPrefixOf cs) with
      | some s => tok .symbol s.length s
      | none => bad 1

/-- The characters after space and comments. -/
def skipSpace (cs : List Char) : List Char :=
  go cs cs.length
where
  /-- Skips with a bound on the steps. -/
  go (cs : List Char) : Nat → List Char
    | 0 => cs
    | fuel + 1 =>
      match cs with
      | c :: rest =>
        if isSpace c then go rest fuel
        else if c == '-' && rest.head? == some '-' then go (rest.dropWhile (· != '\n')) fuel
        else if c == '/' && rest.head? == some '*' then
          let body := rest.drop 1
          let rec close : List Char → List Char
            | '*' :: '/' :: more => more
            | _ :: more => close more
            | [] => []
          go (close body) fuel
        else cs
      | [] => []

/-- The tokens of a text, with byte offsets from its start, up to the first text that is not
a token, which comes last if there is one. -/
def tokenize (text : String) : Array Token × Option LexError :=
  go text.toList 0 #[] (text.length + 1)
where
  /-- Reads tokens with a bound on the steps. -/
  go (cs : List Char) (offset : Nat) (acc : Array Token) : Nat → Array Token × Option LexError
    | 0 => (acc, none)
    | fuel + 1 =>
      let rest := skipSpace cs
      let offset := offset + byteLength (cs.take (cs.length - rest.length))
      if rest.isEmpty then (acc, none)
      else
        match token rest offset with
        | .ok (t, n) => go (rest.drop n) (offset + byteLength (rest.take n)) (acc.push t) fuel
        | .error e => (acc, some e)

end SubtitleQueue.Sql
