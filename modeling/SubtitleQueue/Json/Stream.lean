import SubtitleQueue.Decimal.Binary
import SubtitleQueue.Text.Utf8

/-!
Reading JSON from a stream of bytes, one byte of lookahead at a time. The position of an
error is the line and column after the last byte taken from the stream, the byte looked at
included; lines count from one, columns count bytes from zero and restart after a line feed.

A text read as a whole rather than as a stream places most errors before the byte looked at,
since looking at a byte of a text does not take it. Errors about the byte looked at itself (an
unexpected character where a separator or value should be) are placed after it either way.

The readers here take single tokens: whitespace, literal words, strings (with their escapes
and a check that the bytes are UTF-8), numbers (as a whole number, a negative whole number, or
a double computed as a product or quotient by a power of ten), and whole values that are only
checked and skipped.
-/

namespace SubtitleQueue.Json

/-- A place in a stream of bytes. -/
structure Cursor where
  rest : List UInt8
  line : Nat := 1
  col : Nat := 0
  ahead : Option UInt8 := none
  /-- Whether the bytes are a whole text rather than a stream. -/
  slice : Bool := false
  /-- The line and column before the last byte taken. -/
  back : Nat × Nat := (1, 0)
  deriving Repr, Inhabited

/-- Where an error is placed when the reader stops at this cursor: for a whole text, before
the byte looked at. -/
def Cursor.place (c : Cursor) : Nat × Nat :=
  if c.slice && c.ahead.isSome then c.back else (c.line, c.col)

/-- A reading error: its message, the position it is reported at if that is fixed yet, and
the cursor where it was raised, from which an enclosing reader fixes the position. -/
structure Problem where
  message : String
  place : Option (Nat × Nat) := none
  cursor : Cursor := default
  deriving Repr, Inhabited

/-- The text of a reading error. -/
def Problem.text (p : Problem) : String :=
  match p.place with
  | some (l, c) => p.message ++ " at line " ++ toString l ++ " column " ++ toString c
  | none => p.message

/-- Reading from a stream. -/
abbrev Reader := StateT Cursor (Except Problem)

namespace Reader

/-- Takes the next byte from the stream, counting lines and columns. -/
def pull (c : Cursor) : Option (UInt8 × Cursor) :=
  match c.rest with
  | [] => none
  | b :: rest =>
    let back := (c.line, c.col)
    if b == 10 then some (b, { c with rest, line := c.line + 1, col := 0, back })
    else some (b, { c with rest, col := c.col + 1, back })

/-- The next byte, without taking it. -/
def peek : Reader (Option UInt8) := do
  let c ← get
  match c.ahead with
  | some b => return some b
  | none =>
    match pull c with
    | some (b, c') => set { c' with ahead := some b }; return some b
    | none => return none

/-- Takes the byte looked at. -/
def eat : Reader Unit := modify fun c => { c with ahead := none }

/-- Takes the next byte. -/
def next : Reader (Option UInt8) := do
  let c ← get
  match c.ahead with
  | some b => set { c with ahead := none }; return some b
  | none =>
    match pull c with
    | some (b, c') => set c'; return some b
    | none => return none

/-- A failure at the current position. -/
def fail {α : Type} (message : String) : Reader α := do
  let c ← get
  throw { message, place := some c.place, cursor := c }

/-- A failure about the byte looked at, placed after it. -/
def failAhead {α : Type} (message : String) : Reader α := do
  let c ← get
  throw { message, place := some (c.line, c.col), cursor := c }

/-- A failure whose position is fixed later, by the reader of the enclosing value. -/
def raise {α : Type} (message : String) : Reader α := do
  let c ← get
  throw { message, cursor := c }

/-- Gives a failure that has no position yet the one where it was raised. -/
def placed {α : Type} (r : Reader α) : Reader α := fun c =>
  match r c with
  | .ok v => .ok v
  | .error p =>
    .error (if p.place.isNone then { p with place := some p.cursor.place } else p)

/-- Runs `r`; on failure, runs `after` first and then gives the failure the position that
follows it. -/
def placedAfter {α : Type} (r : Reader α) (after : Reader Unit) : Reader α := fun c =>
  match r c with
  | .ok v => .ok v
  | .error p =>
    if p.place.isSome then .error p
    else
      -- the failure of `r` wins over any failure of `after`
      let c' := match after p.cursor with
        | .ok ((), c') => c'
        | .error q => q.cursor
      .error { p with place := some c'.place }

/-- How many bytes are left, the one looked at included: a bound on any loop. -/
def budget : Reader Nat := do
  let c ← get
  return c.rest.length + 2

/-- Whether a byte is JSON whitespace. -/
def isSpace (b : UInt8) : Bool := b == 32 || b == 10 || b == 9 || b == 13

/-- Skips whitespace; the next byte after it. -/
def whitespace : Reader (Option UInt8) := do
  for _ in [0:(← budget)] do
    match ← peek with
    | some b => if isSpace b then eat else return some b
    | none => return none
  peek

/-- Whether a byte is an ASCII digit. -/
def isDigit (b : UInt8) : Bool := 48 ≤ b && b ≤ 57

/-- The bytes of a word after its first letter. -/
def ident (rest : List UInt8) : Reader Unit := do
  for b in rest do
    match ← next with
    | some x => if x != b then fail "expected ident"
    | none => fail "EOF while parsing a value"

/-- The next byte, or the end of the string as an error. -/
def nextInString : Reader UInt8 := do
  match ← next with
  | some b => return b
  | none => fail "EOF while parsing a string"

/-- The value of a hexadecimal digit. -/
def hexValue (b : UInt8) : Option Nat :=
  if isDigit b then some (b.toNat - 48)
  else if 97 ≤ b && b ≤ 102 then some (b.toNat - 87)
  else if 65 ≤ b && b ≤ 70 then some (b.toNat - 55)
  else none

/-- Four hexadecimal digits of a `\u` escape. -/
def hexEscape : Reader Nat := do
  let a ← nextInString
  let b ← nextInString
  let c ← nextInString
  let d ← nextInString
  match hexValue a, hexValue b, hexValue c, hexValue d with
  | some a, some b, some c, some d => return ((a * 16 + b) * 16 + c) * 16 + d
  | _, _, _, _ => fail "invalid escape"

/-- The UTF-8 bytes of a code point (a lone surrogate is written as if it were one). -/
def utf8Bytes (n : Nat) : List UInt8 :=
  if n < 0x80 then [n.toUInt8]
  else if n < 0x800 then [(0xC0 + n / 64).toUInt8, (0x80 + n % 64).toUInt8]
  else if n < 0x10000 then
    [(0xE0 + n / 4096).toUInt8, (0x80 + n / 64 % 64).toUInt8, (0x80 + n % 64).toUInt8]
  else [(0xF0 + n / 262144).toUInt8, (0x80 + n / 4096 % 64).toUInt8,
        (0x80 + n / 64 % 64).toUInt8, (0x80 + n % 64).toUInt8]

/-- A `\u` escape, with a second one for a surrogate pair. -/
def unicodeEscape : Reader (List UInt8) := do
  let n ← hexEscape
  if 0xDC00 ≤ n && n ≤ 0xDFFF then fail "lone leading surrogate in hex escape"
  else if n < 0xD800 || n > 0xDBFF then return utf8Bytes n
  else
    match ← peek with
    | some 92 => eat
    | some _ => eat; fail "unexpected end of hex escape"
    | none => fail "EOF while parsing a string"
    match ← peek with
    | some 117 => eat
    | some _ => eat; fail "unexpected end of hex escape"
    | none => fail "EOF while parsing a string"
    let n2 ← hexEscape
    if n2 < 0xDC00 || n2 > 0xDFFF then fail "lone leading surrogate in hex escape"
    else return utf8Bytes ((((n - 0xD800) * 1024) ||| (n2 - 0xDC00)) + 0x10000)

/-- One escape after a backslash. -/
def escape : Reader (List UInt8) := do
  match ← nextInString with
  | 34 => return [34]
  | 92 => return [92]
  | 47 => return [47]
  | 98 => return [8]
  | 102 => return [12]
  | 110 => return [10]
  | 114 => return [13]
  | 116 => return [9]
  | 117 => unicodeEscape
  | _ => fail "invalid escape"

/-- The bytes of a string after its opening quote, escapes decoded, up to and including the
closing quote. -/
def stringBytes : Reader (List UInt8) := do
  let mut acc : Array UInt8 := #[]
  for _ in [0:(← budget)] do
    let b ← nextInString
    if b == 34 then return acc.toList
    else if b == 92 then acc := acc ++ (← escape).toArray
    else if b < 32 then fail "control character (\\u0000-\\u001F) found while parsing a string"
    else acc := acc.push b
  fail "EOF while parsing a string"

/-- A string after its opening quote: its bytes must be UTF-8. -/
def string : Reader String := do
  let bytes ← stringBytes
  match Text.decodeStrict (ByteArray.mk bytes.toArray) with
  | some s => return s
  | none => fail "invalid unicode code point"

/-- Skips a string after its opening quote. -/
def skipString : Reader Unit := do
  for _ in [0:(← budget)] do
    let b ← nextInString
    if b == 34 then return
    else if b == 92 then
      match ← nextInString with
      | 34 | 92 | 47 | 98 | 102 | 110 | 114 | 116 => pure ()
      | 117 => let _ ← hexEscape
      | _ => fail "invalid escape"
    else if b < 32 then fail "control character (\\u0000-\\u001F) found while parsing a string"
  fail "EOF while parsing a string"

/-- A number as the stream gives it: a whole number, a negative whole number, or a double with
its sign. -/
inductive Number where
  | whole (n : Nat)
  | negative (n : Nat)
  | double (neg : Bool) (v : Decimal.Value)
  deriving Repr, Inhabited

/-- The largest 64-bit word. -/
def wordTop : Nat := Nat.pow 2 64 - 1

/-- Whether appending a digit to a 64-bit word would pass the top. -/
def wouldOverflow (n d : Nat) : Bool := n ≥ wordTop / 10 && (n > wordTop / 10 || d > wordTop % 10)

/-- The product of two doubles, rounded. -/
def mulDouble : Decimal.Value → Decimal.Value → Decimal.Value
  | .zero, .infinite | .infinite, .zero => .infinite
  | .zero, _ | _, .zero => .zero
  | .infinite, _ | _, .infinite => .infinite
  | .finite a x, .finite b y =>
    let (n, d) := Decimal.scaled (a * b) (x + y)
    Decimal.double.roundFraction n d

/-- The quotient of two finite doubles, rounded. -/
def divDouble : Decimal.Value → Decimal.Value → Decimal.Value
  | .zero, _ => .zero
  | .infinite, _ => .infinite
  | _, .zero | _, .infinite => .zero
  | .finite a x, .finite b y =>
    let (n, d) := Decimal.scaled a (x - y)
    Decimal.double.roundFraction n (d * b)

/-- A power of ten as a double. -/
def tenTo (k : Nat) : Decimal.Value := Decimal.double.roundDecimal 1 k

/-- The double `significand · 10 ^ exponent`: the significand rounded to a double, then
multiplied or divided by the power of ten as a double; powers past `10 ^ 308` go by steps of
`10 ^ 308`. A product past the largest double is an error. -/
def composeDouble (neg : Bool) (significand : Nat) (exponent : Int) : Reader Number := do
  let mut f := Decimal.double.roundDecimal significand 0
  let mut e := exponent
  for _ in [0:exponent.natAbs / 308 + 2] do
    if e.natAbs ≤ 308 then
      if e ≥ 0 then
        f := mulDouble f (tenTo e.toNat)
        if f == .infinite then fail "number out of range"
      else f := divDouble f (tenTo e.natAbs)
      return .double neg f
    else
      if f == .zero then return .double neg f
      if e ≥ 0 then fail "number out of range"
      f := divDouble f (tenTo 308)
      e := e + 308
  return .double neg f

/-- The exponent part of a number, after the `e`. -/
def exponentPart (neg : Bool) (significand : Nat) (start : Int) : Reader Number := do
  eat
  let positive ← match ← peek with
    | some 43 => eat; pure true
    | some 45 => eat; pure false
    | _ => pure true
  let first ← match ← next with
    | some b => if isDigit b then pure (b.toNat - 48) else fail "invalid number"
    | none => fail "EOF while parsing a value"
  let mut exp := first
  for _ in [0:(← budget)] do
    match ← peek with
    | some b =>
      if isDigit b then
        eat
        let d := b.toNat - 48
        if exp ≥ 214748364 && (exp > 214748364 || d > 7) then
          -- an exponent past the 32-bit range
          if significand != 0 && positive then fail "number out of range"
          for _ in [0:(← budget)] do
            match ← peek with
            | some b => if isDigit b then eat else break
            | none => break
          return .double neg .zero
        exp := exp * 10 + d
      else break
    | none => break
  composeDouble neg significand (if positive then start + exp else start - exp)

/-- The fraction part of a number, after the point. -/
def fractionPart (neg : Bool) (significand : Nat) (start : Int) : Reader Number := do
  eat
  let mut sig := significand
  let mut exp := start
  let mut any := false
  let mut overflowed := false
  for _ in [0:(← budget)] do
    match ← peek with
    | some b =>
      if isDigit b then
        if overflowed || wouldOverflow sig (b.toNat - 48) then
          overflowed := true
          eat
        else
          eat
          sig := sig * 10 + (b.toNat - 48)
          exp := exp - 1
          any := true
      else break
    | none => break
  if !any && !overflowed then fail "invalid number"
  match ← peek with
  | some 101 | some 69 => exponentPart neg sig exp
  | _ => composeDouble neg sig exp

/-- What follows the digits of a whole number. -/
def afterDigits (neg : Bool) (significand : Nat) : Reader Number := do
  match ← peek with
  | some 46 => fractionPart neg significand 0
  | some 101 | some 69 => exponentPart neg significand 0
  | _ =>
    if !neg then return .whole significand
    else if significand == 0 || significand > Nat.pow 2 63 then
      composeDouble true significand 0
    else return .negative significand

/-- A number after its sign. -/
def number (neg : Bool) : Reader Number := do
  match ← next with
  | none => fail "EOF while parsing a value"
  | some 48 =>
    match ← peek with
    | some b => if isDigit b then fail "invalid number" else afterDigits neg 0
    | none => afterDigits neg 0
  | some b =>
    if !isDigit b then fail "invalid number"
    let mut sig := b.toNat - 48
    for _ in [0:(← budget)] do
      match ← peek with
      | some d =>
        if isDigit d then
          if wouldOverflow sig (d.toNat - 48) then
            -- more digits than a 64-bit word holds: the rest only scale it
            let mut extra : Nat := 0
            for _ in [0:(← budget)] do
              match ← peek with
              | some x => if isDigit x then eat; extra := extra + 1 else break
              | none => break
            match ← peek with
            | some 46 => return ← fractionPart neg sig extra
            | some 101 | some 69 => return ← exponentPart neg sig extra
            | _ => return ← composeDouble neg sig extra
          eat
          sig := sig * 10 + (d.toNat - 48)
        else break
      | none => break
    afterDigits neg sig

/-- Skips the digits of a number. -/
def skipDigits : Reader Unit := do
  for _ in [0:(← budget)] do
    match ← peek with
    | some b => if isDigit b then eat else return
    | none => return

/-- Skips the exponent part of a number. -/
def skipExponent : Reader Unit := do
  eat
  match ← peek with
  | some 43 | some 45 => eat
  | _ => pure ()
  match ← next with
  | some b => if isDigit b then skipDigits else fail "invalid number"
  | none => fail "invalid number"

/-- Skips a number after its sign. -/
def skipNumber : Reader Unit := do
  match ← next with
  | some 48 =>
    match ← peek with
    | some b => if isDigit b then fail "invalid number"
    | none => pure ()
  | some b => if isDigit b then skipDigits else fail "invalid number"
  | none => fail "invalid number"
  match ← peek with
  | some 46 =>
    eat
    match ← peek with
    | some b =>
      if isDigit b then
        skipDigits
        match ← peek with
        | some 101 | some 69 => skipExponent
        | _ => pure ()
      else fail "invalid number"
    | none => fail "invalid number"
  | some 101 | some 69 => skipExponent
  | _ => pure ()

/-- Checks and skips one whole value, nested ones included. -/
def skipValue : Reader Unit := do
  -- the open arrays and objects, innermost first
  let mut stack : List UInt8 := []
  for _ in [0:(← budget)] do
    let b ← match ← whitespace with
      | some b => pure b
      | none => fail "EOF while parsing a value"
    let mut opened := false
    if b == 110 then eat; ident [117, 108, 108]
    else if b == 116 then eat; ident [114, 117, 101]
    else if b == 102 then eat; ident [97, 108, 115, 101]
    else if b == 45 then eat; skipNumber
    else if isDigit b then skipNumber
    else if b == 34 then eat; skipString
    else if b == 91 || b == 123 then eat; stack := b :: stack; opened := true
    else failAhead "expected value"
    -- after a value, or just inside a bracket: close what ends here
    let mut acceptComma := !opened
    for _ in [0:(← budget)] do
      match stack with
      | [] => return
      | frame :: outer =>
        match ← whitespace with
        | some 44 =>
          if acceptComma then eat; break
          else break
        | some 93 =>
          if frame == 91 then eat; stack := outer; acceptComma := true
          else if acceptComma then failAhead "expected `,` or `\x7d`" else break
        | some 125 =>
          if frame == 123 then eat; stack := outer; acceptComma := true
          else if acceptComma then failAhead "expected `,` or `]`" else break
        | some _ =>
          if acceptComma then
            failAhead (if frame == 91 then "expected `,` or `]`" else "expected `,` or `\x7d`")
          else break
        | none => fail (if frame == 91 then "EOF while parsing a list" else "EOF while parsing an object")
    if stack.isEmpty then return
    -- inside an object, a key and a colon come before the next value
    match stack with
    | 123 :: _ =>
      match ← whitespace with
      | some 34 => eat
      | some _ => failAhead "key must be a string"
      | none => fail "EOF while parsing an object"
      skipString
      match ← whitespace with
      | some 58 => eat
      | some _ => failAhead "expected `:`"
      | none => fail "EOF while parsing an object"
    | _ => pure ()
  fail "EOF while parsing a value"

end Reader

end SubtitleQueue.Json
