import SubtitleQueue.Json.Stream
import SubtitleQueue.Text.Quote
import SubtitleQueue.Json.Value

/-!
Reading a JSON stream against the shape of a typed value. A record reads from an object whose
known keys it takes once each (a key given twice is an error, unknown keys are checked and
skipped, missing ones stay absent so that their defaults apply), or from an array giving its
fields in order. Counts must be whole numbers in their range, the single-precision number
rounds its value from a double, a choice takes one of its names, and a map takes text values.
Any value is taken as it is written, an object keeping the last value of a repeated key, with
at most 127 arrays and objects open at once.

A mismatch is reported as `invalid type` with what was found and what was expected, or
`invalid value` for a number out of range; the reading then goes on to the end of the token
before the position is taken.
-/

namespace SubtitleQueue.Json

open Reader

/-- The shape of a typed value. -/
inductive Shape where
  /-- Text. -/
  | text
  /-- A whole number from zero up to `top`, under a type name. -/
  | count (name : String) (top : Nat)
  /-- A single-precision number. -/
  | single
  /-- An optional value: `null` for none. -/
  | maybe (s : Shape)
  /-- One of several names. -/
  | choice (names : List String)
  /-- A map from text to text. -/
  | textMap
  /-- A record with named fields, under a type name. -/
  | record (name : String) (fields : List (String × Shape))
  /-- A field of a record that must be given. -/
  | required (s : Shape)
  /-- A sequence of values of one shape. -/
  | list (s : Shape)
  /-- Any value, kept as it is written. -/
  | any
  deriving Repr, Inhabited

/-- Whether a field must be given. -/
def Shape.isRequired : Shape → Bool
  | .required _ => true
  | _ => false

mutual

/-- How deeply shapes nest. -/
def Shape.depth : Shape → Nat
  | .maybe s => s.depth + 1
  | .required s => s.depth + 1
  | .list s => s.depth + 1
  | .record _ fs => Shape.fieldsDepth fs + 1
  | _ => 1

/-- How deeply the shapes of fields nest. -/
def Shape.fieldsDepth : List (String × Shape) → Nat
  | [] => 0
  | (_, s) :: rest => max s.depth (Shape.fieldsDepth rest)

end

namespace Reader

/-- What a number is called in an error message. -/
def Number.unexpected : Number → String
  | .whole n => "integer `" ++ toString n ++ "`"
  | .negative n => "integer `-" ++ toString n ++ "`"
  | .double neg v => "floating point `" ++ ((Decimal.valueText Decimal.double neg v).getD "inf") ++ "`"

/-- A value of the wrong type. -/
def invalidType {α : Type} (found expected : String) : Reader α :=
  raise ("invalid type: " ++ found ++ ", expected " ++ expected)

/-- A value of the right type out of range. -/
def invalidValue {α : Type} (found expected : String) : Reader α :=
  raise ("invalid value: " ++ found ++ ", expected " ++ expected)

/-- Reads the token that stands where a value of type `expected` was wanted, and fails
naming what it was. -/
def mismatch {α : Type} (expected : String) : Reader α := placed do
  match ← peek with
  | some 110 => eat; ident [117, 108, 108]; invalidType "null" expected
  | some 116 => eat; ident [114, 117, 101]; invalidType "boolean `true`" expected
  | some 102 => eat; ident [97, 108, 115, 101]; invalidType "boolean `false`" expected
  | some 45 => eat; invalidType (Number.unexpected (← number true)) expected
  | some 34 => eat; invalidType ("string " ++ Text.quoted (← string)) expected
  | some 91 => invalidType "sequence" expected
  | some 123 => invalidType "map" expected
  | some b =>
    if isDigit b then
      let n ← number false
      invalidType (Number.unexpected n) expected
    else failAhead "expected value"
  | none => failAhead "expected value"

/-- A string value. -/
def text : Reader Json := placed do
  match ← whitespace with
  | some 34 => eat; return .str (← string)
  | some _ => mismatch "a string"
  | none => fail "EOF while parsing a value"

/-- A number token, for a reader that accepts numbers. -/
def numberToken (expected : String) : Reader Number := do
  match ← whitespace with
  | some 45 => eat; number true
  | some b => if isDigit b then number false else mismatch expected
  | none => fail "EOF while parsing a value"

/-- A whole number from zero to `top`. -/
def count (name : String) (top : Nat) : Reader Json := placed do
  match ← numberToken name with
  | .whole n => if n ≤ top then return .nat n else invalidValue ("integer `" ++ toString n ++ "`") name
  | .negative n => invalidValue ("integer `-" ++ toString n ++ "`") name
  | n@(.double _ _) => invalidType (Number.unexpected n) name

/-- A single-precision value as a JSON number of its shortest digits; `null` if it is not
finite. -/
def singleJson (neg : Bool) (v : Decimal.Value) : Json :=
  match v with
  | .zero => .num { mantissa := 0, isFloat := true }
  | .infinite => .null
  | .finite m e =>
    let (d, k) := Decimal.shortest Decimal.single m e
    .num { mantissa := if neg then -(d : Int) else d, exponent := k, isFloat := true }

/-- A single-precision number: whole numbers round straight to it, doubles are narrowed. -/
def single : Reader Json := placed do
  match ← numberToken "f32" with
  | .whole n => return singleJson false (Decimal.single.roundDecimal n 0)
  | .negative n => return singleJson true (Decimal.single.roundDecimal n 0)
  | .double neg v => return singleJson neg (Decimal.single.narrow v)

/-- The list of names in an error message: one, two joined by `or`, or `one of` many. -/
def oneOf (names : List String) : String :=
  match names with
  | [a] => "`" ++ a ++ "`"
  | [a, b] => "`" ++ a ++ "` or `" ++ b ++ "`"
  | _ => "one of " ++ ", ".intercalate (names.map fun n => "`" ++ n ++ "`")

/-- The colon after a key. -/
def colon : Reader Unit := do
  match ← whitespace with
  | some 58 => eat
  | some _ => failAhead "expected `:`"
  | none => fail "EOF while parsing an object"

/-- The name of a choice, as a string. -/
def variantName (names : List String) : Reader String := placed do
  match ← whitespace with
  | some 34 =>
    eat
    let s ← string
    if names.contains s then return s
    else raise ("unknown variant `" ++ s ++ "`, expected " ++ oneOf names)
  | some _ => mismatch "variant identifier"
  | none => fail "EOF while parsing a value"

/-- One of several names: a string, or an object with the name as its only key over `null`. -/
def choice (names : List String) : Reader Json := do
  match ← whitespace with
  | some 34 => return .str (← variantName names)
  | some 123 =>
    eat
    let name ← variantName names
    colon
    placed do
      match ← whitespace with
      | some 110 => eat; ident [117, 108, 108]
      | some _ => mismatch "unit"
      | none => fail "EOF while parsing a value"
    match ← whitespace with
    | some 125 => eat; return .str name
    | some _ => failAhead "expected value"
    | none => fail "EOF while parsing an object"
  | some _ => failAhead "expected value"
  | none => fail "EOF while parsing a value"

/-- The next key of an object, or `none` at its end. -/
def nextKey (first : Bool) : Reader (Option String) := do
  let b ← match ← whitespace with
    | some 125 => return none
    | some 44 => if first then failAhead "expected `,` or `\x7d`" else eat; whitespace
    | some b => if first then pure (some b) else failAhead "expected `,` or `\x7d`"
    | none => fail "EOF while parsing an object"
  match b with
  | some 34 => eat; return some (← string)
  | some 125 => failAhead "trailing comma"
  | some _ => failAhead "key must be a string"
  | none => fail "EOF while parsing a value"

/-- The end of an object. -/
def endObject : Reader Unit := do
  match ← whitespace with
  | some 125 => eat
  | some 44 => failAhead "trailing comma"
  | some _ => failAhead "trailing characters"
  | none => fail "EOF while parsing an object"

/-- The end of an array. -/
def endArray : Reader Unit := do
  match ← whitespace with
  | some 93 => eat
  | some 44 =>
    eat
    match ← whitespace with
    | some 93 => failAhead "trailing comma"
    | _ => failAhead "trailing characters"
  | some _ => failAhead "trailing characters"
  | none => fail "EOF while parsing a list"

/-- Whether another element of an array follows. -/
def nextElement (first : Bool) : Reader Bool := do
  let b ← match ← whitespace with
    | some 93 => return false
    | some 44 => if first then failAhead "expected `,` or `]`" else eat; whitespace
    | some b => if first then pure (some b) else failAhead "expected `,` or `]`"
    | none => fail "EOF while parsing a list"
  match b with
  | some 93 => failAhead "trailing comma"
  | some _ => return true
  | none => fail "EOF while parsing a value"

/-- Sets a key of an object, replacing an earlier value. -/
def setField (fields : List (String × Json)) (k : String) (v : Json) : List (String × Json) :=
  if fields.any (·.1 == k) then fields.map fun (k', v') => if k' == k then (k', v) else (k', v')
  else fields ++ [(k, v)]

/-- A map from text to text. -/
def textMap : Reader Json := placed do
  match ← whitespace with
  | some 123 =>
    eat
    let body : Reader Json := do
      let mut fields : List (String × Json) := []
      let mut first := true
      for _ in [0:(← budget)] do
        match ← nextKey first with
        | none => break
        | some k =>
          first := false
          colon
          fields := setField fields k (← text)
      return .obj fields
    let r ← placedAfter body endObject
    endObject
    return r
  | some _ => mismatch "a map"
  | none => fail "EOF while parsing a value"

/-- A number as a value: whole numbers exactly, doubles by their shortest digits. -/
def numberJson : Number → Json
  | .whole n => .nat n
  | .negative n => .int (-(n : Int))
  | .double neg v =>
    match v with
    | .finite m e =>
      let (d, k) := Decimal.shortest Decimal.double m e
      .num { mantissa := if neg then -(d : Int) else d, exponent := k, isFloat := true }
    | _ => .num { mantissa := 0, isFloat := true }

/-- The nesting the reader of any value allows, counting the value itself. -/
def anyRoom : Nat := 128

/-- Reads any value. `room` counts down as arrays and objects open; opening one that would
bring it to zero is refused. -/
def anyValue : Nat → Reader Json
  | 0 => fail "recursion limit exceeded"
  | room + 1 => placed do
    match ← whitespace with
    | some 110 => eat; ident [117, 108, 108]; return .null
    | some 116 => eat; ident [114, 117, 101]; return .bool true
    | some 102 => eat; ident [97, 108, 115, 101]; return .bool false
    | some 45 => eat; return numberJson (← number true)
    | some 34 => eat; return .str (← string)
    | some 91 =>
      if room == 0 then failAhead "recursion limit exceeded"
      eat
      let body : Reader Json := do
        let mut items : List Json := []
        let mut first := true
        for _ in [0:(← budget)] do
          if ← nextElement first then
            first := false
            items := items ++ [← anyValue room]
          else break
        return .arr items
      let r ← placedAfter body endArray
      endArray
      return r
    | some 123 =>
      if room == 0 then failAhead "recursion limit exceeded"
      eat
      let body : Reader Json := do
        let mut fields : List (String × Json) := []
        let mut first := true
        for _ in [0:(← budget)] do
          match ← nextKey first with
          | none => break
          | some k =>
            first := false
            colon
            fields := setField fields k (← anyValue room)
        return .obj fields
      let r ← placedAfter body endObject
      endObject
      return r
    | some b =>
      if isDigit b then return numberJson (← number false)
      failAhead "expected value"
    | none => fail "EOF while parsing a value"

/-- Reads a value of a shape; `fuel` bounds the nesting. -/
def shaped : Nat → Shape → Reader Json
  | 0, _ => fail "recursion limit exceeded"
  | _ + 1, .text => text
  | _ + 1, .count name top => count name top
  | _ + 1, .single => single
  | fuel + 1, .maybe s => do
    match ← whitespace with
    | some 110 => eat; ident [117, 108, 108]; return .null
    | _ => shaped fuel s
  | _ + 1, .choice names => choice names
  | _ + 1, .textMap => textMap
  | _ + 1, .any => anyValue anyRoom
  | fuel + 1, .required s => shaped fuel s
  | fuel + 1, .list s => placed do
    match ← whitespace with
    | some 91 =>
      eat
      let body : Reader Json := do
        let mut items : List Json := []
        let mut first := true
        for _ in [0:(← budget)] do
          if ← nextElement first then
            first := false
            items := items ++ [← shaped fuel s]
          else break
        return .arr items
      let r ← placedAfter body endArray
      endArray
      return r
    | some _ => mismatch "a sequence"
    | none => failAhead "EOF while parsing a value"
  | fuel + 1, .record name fields => placed do
    match ← whitespace with
    | some 123 =>
      eat
      let body : Reader Json := do
        let mut got : List (String × Json) := []
        let mut first := true
        for _ in [0:(← budget)] do
          match ← nextKey first with
          | none => break
          | some k =>
            first := false
            match fields.find? (·.1 == k) with
            | some (_, s) =>
              if got.any (·.1 == k) then raise ("duplicate field `" ++ k ++ "`")
              colon
              got := got ++ [(k, ← shaped fuel s)]
            | none => colon; skipValue
        for (k, s) in fields do
          if s.isRequired && !got.any (·.1 == k) then raise ("missing field `" ++ k ++ "`")
        return .obj got
      let r ← placedAfter body endObject
      endObject
      return r
    | some 91 =>
      eat
      let body : Reader Json := do
        let mut got : List (String × Json) := []
        let mut first := true
        for ((k, s), i) in fields.zipIdx do
          if ← nextElement first then
            first := false
            got := got ++ [(k, ← shaped fuel s)]
          else
            -- later fields read as absent too: the first required one is missing
            match (fields.drop i).findIdx? (·.2.isRequired) with
            | some j =>
              raise ("invalid length " ++ toString (i + j) ++ ", expected struct " ++ name ++
                " with " ++ toString fields.length ++ " elements")
            | none => break
        return .obj got
      let r ← placedAfter body endArray
      endArray
      return r
    | some _ => mismatch ("struct " ++ name)
    | none => fail "EOF while parsing a value"

/-- Reads a value of a shape with nothing but whitespace after it. -/
def whole (s : Shape) : Reader Json := do
  let v ← shaped (s.depth + 1) s
  match ← whitespace with
  | some _ => failAhead "trailing characters"
  | none => return v

/-- Reads a whole document of a shape from a stream. -/
def document (s : Shape) (bytes : List UInt8) : Except Problem Json :=
  (whole s).run' { rest := bytes }

/-- Reads a whole text of a shape. -/
def documentOfText (s : Shape) (t : String) : Except Problem Json :=
  (whole s).run' { rest := t.toUTF8.toList, slice := true }

end Reader

end SubtitleQueue.Json
