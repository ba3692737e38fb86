import SubtitleQueue.Decimal.Binary
import SubtitleQueue.Text.Case

/-!
The values a table cell holds: null, a 64-bit whole number, a double, text or bytes. A double
is kept exactly, as a sign and a binary value, so that comparing it with a whole number is
exact.

Values are ordered null first, then numbers by size, then text by its bytes, then byte
strings. A column's declared type gives it an affinity, which converts what is stored in it:
numeric columns turn text that reads as a number into that number, text columns turn numbers
into their text.
-/

namespace SubtitleQueue.Sql

/-- A cell's value. -/
inductive Value where
  | null
  | int (i : Int)
  | real (neg : Bool) (v : Decimal.Value)
  | text (s : String)
  | blob (bytes : List UInt8)
  deriving Repr, DecidableEq, Inhabited

/-- The least and greatest 64-bit whole numbers. -/
def intMin : Int := -9223372036854775808

/-- The greatest 64-bit whole number. -/
def intMax : Int := 9223372036854775807

/-- Whether a whole number fits in 64 bits. -/
def fits (i : Int) : Bool := intMin ≤ i && i ≤ intMax

/-- The characters that count as space around a number. -/
def isSpace (c : Char) : Bool :=
  c == ' ' || c == '\t' || c == '\n' || c == '\x0c' || c == '\x0b' || c == '\r'

/-- A list of characters without the space around it. -/
def trimSpace (cs : List Char) : List Char :=
  ((cs.dropWhile isSpace).reverse.dropWhile isSpace).reverse

/-- The type a column's declaration asks for. -/
inductive Affinity where
  | integer
  | real
  | numeric
  | text
  | blob
  deriving Repr, DecidableEq, Inhabited

/-- The affinity of a declared type: by the words it contains, in this order of
preference. -/
def Affinity.ofType (t : String) : Affinity :=
  let u := (Text.lower t)
  let has (w : String) := Text.containsText u w
  if has "int" then .integer
  else if has "char" || has "clob" || has "text" then .text
  else if has "blob" || (trimSpace u.toList).isEmpty then .blob
  else if has "real" || has "floa" || has "doub" then .real
  else .numeric

namespace Value

/-- A double from an exact fraction `a / b` with a sign. -/
def ofFraction (neg : Bool) (a b : Nat) : Value :=
  match Decimal.double.roundFraction a b with
  | .zero => .real neg .zero
  | v => .real neg v

/-- The exact value of a finite double as a fraction with a positive denominator. -/
def realFraction (neg : Bool) : Decimal.Value → Option (Int × Nat)
  | .zero => some (0, 1)
  | .infinite => none
  | .finite m e =>
    let (a, b) := Decimal.scaled m e
    some (if neg then -(a : Int) else a, b)

/-- A whole number as a double, when it is one exactly. -/
def realToInt? (neg : Bool) (v : Decimal.Value) : Option Int :=
  match realFraction neg v with
  | some (a, b) => if b != 0 && a % b == 0 && fits (a / b) then some (a / b) else none
  | none => none

/-- A whole number made a double. -/
def intToReal (i : Int) : Value := ofFraction (i < 0) i.natAbs 1

/-- Digits of a decimal number in text: sign, digits with one optional point, optional
exponent. Returns the sign, the digits as a number, the decimal exponent, and whether a
point or an exponent was seen. -/
def scanNumber (cs : List Char) : Option (Bool × Nat × Int × Bool) :=
  let (neg, cs) := match cs with
    | '-' :: rest => (true, rest)
    | '+' :: rest => (false, rest)
    | _ => (false, cs)
  let whole := cs.takeWhile Char.isDigit
  let cs := cs.drop whole.length
  let (frac, cs, dot) := match cs with
    | '.' :: rest => let f := rest.takeWhile Char.isDigit; (f, rest.drop f.length, true)
    | _ => ([], cs, false)
  if whole.isEmpty && frac.isEmpty then none else
  let digits := (whole ++ frac).foldl (fun n c => n * 10 + (c.toNat - 48)) 0
  let expPart : Option (Int × Bool) := match cs with
    | e :: rest =>
      if e == 'e' || e == 'E' then
        let (eneg, rest) := match rest with
          | '-' :: r => (true, r)
          | '+' :: r => (false, r)
          | _ => (false, rest)
        let ds := rest.takeWhile Char.isDigit
        if ds.isEmpty || ds.length != rest.length then none
        else
          let n : Int := ds.foldl (fun n c => n * 10 + (c.toNat - 48)) 0
          some (if eneg then -n else n, true)
      else none
    | [] => some (0, false)
  match expPart with
  | some (x, hasExp) => some (neg, digits, x - frac.length, dot || hasExp)
  | none => none

/-- The number a text reads as, if all of it (blanks around apart) is a number: a whole
number when it is written as one and fits, else a double. -/
def parseNumber? (s : String) : Option Value :=
  match scanNumber (trimSpace s.toList) with
  | some (neg, m, x, isReal) =>
    if !isReal then
      let i : Int := if neg then -(m : Int) else m
      if fits i then some (.int i) else
        some (.real neg (Decimal.double.roundDecimal m 0))
    else some (.real neg (Decimal.double.roundDecimal m x))
  | none => none

/-- The number at the front of a text, as arithmetic reads text: the longest prefix that is
a number, else zero. -/
def leadingNumber (s : String) : Value :=
  let cs := s.toList.dropWhile isSpace
  let prefixes := (List.range (cs.length + 1)).reverse.map fun n => cs.take n
  match prefixes.findSome? fun p => parseNumber? (String.ofList p) with
  | some v => v
  | none => .int 0

/-- A double's text: fifteen significant digits, positional for moderate sizes, with `.0`
after a whole number. -/
def realText (neg : Bool) (v : Decimal.Value) : String :=
  match v with
  | .zero => if neg then "-0.0" else "0.0"
  | .infinite => if neg then "-Inf" else "Inf"
  | .finite m e =>
    let (a, b) := Decimal.scaled m e
    let x := Decimal.decimalExponent a b
    -- fifteen digits: round a / b * 10 ^ (14 - x)
    let shift := 14 - x
    let (n, d) := if shift ≥ 0 then (a * Nat.pow 10 shift.toNat, b) else (a, b * Nat.pow 10 (-shift).toNat)
    let digits := Decimal.roundHalfEven n d
    let (digits, x) := if digits ≥ Nat.pow 10 15 then (digits / 10, x + 1) else (digits, x)
    let (ds, k) := Decimal.stripZeros digits (x - 14)
    let sign := if neg then "-" else ""
    let text := toString ds
    let len : Int := text.length
    let point := len + k
    let zeros (n : Int) := String.ofList (List.replicate n.toNat '0')
    sign ++
      if x < -4 || x ≥ 15 then
        let rest := String.ofList (text.toList.drop 1)
        String.ofList (text.toList.take 1) ++ "." ++ (if rest.isEmpty then "0" else rest) ++ "e" ++
          (if x < 0 then "-" else "+") ++ (if x.natAbs < 10 then "0" else "") ++ toString x.natAbs
      else if k ≥ 0 then text ++ zeros k ++ ".0"
      else if point > 0 then
        String.ofList (text.toList.take point.toNat) ++ "." ++ String.ofList (text.toList.drop point.toNat)
      else "0." ++ zeros (-point) ++ text

/-- The text of a value, as concatenation and text columns see it; `none` for null. -/
def asText? : Value → Option String
  | .null => none
  | .int i => some (toString i)
  | .real neg v => some (realText neg v)
  | .text s => some s
  | .blob bs => some (String.fromUTF8? (ByteArray.mk bs.toArray) |>.getD "")

/-- The value as arithmetic sees it: a number, or null. -/
def asNumber : Value → Value
  | .null => .null
  | .int i => .int i
  | .real neg v => .real neg v
  | .text s => leadingNumber s
  | .blob bs => leadingNumber (String.fromUTF8? (ByteArray.mk bs.toArray) |>.getD "")

/-- Whether a value counts as true in a condition: a number other than zero. Null is not
true. -/
def isTrue (v : Value) : Bool :=
  match v.asNumber with
  | .int i => i != 0
  | .real _ r => r != .zero
  | _ => false

/-- A stored value converted by a column's affinity. -/
def withAffinity (a : Affinity) (v : Value) : Value :=
  match a, v with
  | .text, .int _ | .text, .real _ _ => .text (v.asText?.getD "")
  | .integer, .text s | .numeric, .text s =>
    match parseNumber? s with
    | some (.real neg r) =>
      match realToInt? neg r with
      | some i => .int i
      | none => .real neg r
    | some n => n
    | none => v
  | .integer, .real neg r | .numeric, .real neg r =>
    match realToInt? neg r with
    | some i => .int i
    | none => v
  | .real, .text s =>
    match parseNumber? s with
    | some (.int i) => intToReal i
    | some n => n
    | none => v
  | .real, .int i => intToReal i
  | _, _ => v

/-- The rank of a value's kind in the order of values. -/
def rank : Value → Nat
  | .null => 0
  | .int _ | .real _ _ => 1
  | .text _ => 2
  | .blob _ => 3

/-- The exact value of a number as a fraction. -/
def fraction? : Value → Option (Int × Nat)
  | .int i => some (i, 1)
  | .real neg v => realFraction neg v
  | _ => none

/-- Compares two byte lists, shorter first on a common prefix. -/
def compareBytes : List UInt8 → List UInt8 → Ordering
  | [], [] => .eq
  | [], _ => .lt
  | _, [] => .gt
  | a :: as, b :: bs => if a < b then .lt else if b < a then .gt else compareBytes as bs

/-- The order of values: null, numbers, text, bytes. -/
def order (a b : Value) : Ordering :=
  if a.rank != b.rank then compare a.rank b.rank else
  match a, b with
  | .text x, .text y => compareBytes x.toUTF8.toList y.toUTF8.toList
  | .blob x, .blob y => compareBytes x y
  | _, _ =>
    match a.fraction?, b.fraction? with
    | some (p, q), some (r, s) => compare (p * s) (r * q)
    | none, some _ => match a with
      | .real true _ => .lt
      | _ => .gt
    | some _, none => match b with
      | .real true _ => .gt
      | _ => .lt
    | none, none => .eq

/-- Whether two values are the same for uniqueness: equal in the order, nulls never
equal. -/
def same (a b : Value) : Bool :=
  match a, b with
  | .null, _ | _, .null => false
  | _, _ => order a b == .eq

/-- The name of a value's type. -/
def typeName : Value → String
  | .null => "null"
  | .int _ => "integer"
  | .real _ _ => "real"
  | .text _ => "text"
  | .blob _ => "blob"

/-- A value as a number for arithmetic on two operands: whole numbers stay whole. -/
def arith (op : Int → Int → Option Int) (rop : (Int × Nat) → (Int × Nat) → Option (Int × Nat))
    (a b : Value) : Value :=
  match a.asNumber, b.asNumber with
  | .null, _ | _, .null => .null
  | .int x, .int y =>
    match op x y with
    | some r => if fits r then .int r else
        match rop (x, 1) (y, 1) with
        | some (p, q) => ofFraction (p < 0) p.natAbs q
        | none => .null
    | none => .null
  | x, y =>
    match x.fraction?, y.fraction? with
    | some p, some q =>
      match rop p q with
      | some (n, d) => ofFraction (n < 0) n.natAbs d
      | none => .null
    | _, _ => .null

/-- Sum. -/
def add : Value → Value → Value :=
  arith (fun x y => some (x + y)) fun (a, b) (c, d) => some (a * d + c * b, b * d)

/-- Difference. -/
def sub : Value → Value → Value :=
  arith (fun x y => some (x - y)) fun (a, b) (c, d) => some (a * d - c * b, b * d)

/-- Product. -/
def mul : Value → Value → Value :=
  arith (fun x y => some (x * y)) fun (a, b) (c, d) => some (a * c, b * d)

/-- Quotient: whole numbers divide toward zero, and division by zero is null. -/
def div : Value → Value → Value :=
  arith (fun x y => if y == 0 then none else some (x.tdiv y))
    fun (a, b) (c, d) =>
      if c == 0 then none
      else
        let n := a * d
        let q := (c * b : Int)
        some (if q < 0 then -n else n, q.natAbs)

/-- Remainder of whole numbers, with the sign of the dividend; null for zero. -/
def rem (a b : Value) : Value :=
  let whole (v : Value) : Option Int := match v.asNumber with
    | .int i => some i
    | .real neg r => (realFraction neg r).map fun (p, q) => p.tdiv q
    | _ => none
  match a, b with
  | .null, _ | _, .null => .null
  | _, _ =>
    match whole a, whole b with
    | some x, some y => if y == 0 then .null else .int (x.tmod y)
    | _, _ => .null

/-- Negation. -/
def neg (a : Value) : Value :=
  match a.asNumber with
  | .int i => if fits (-i) then .int (-i) else intToReal (-i)
  | .real n r => .real (!n) r
  | _ => .null

end Value

end SubtitleQueue.Sql
