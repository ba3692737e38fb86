import SubtitleQueue.Json.Value

/-!
Writing JSON text, compact or indented by two spaces. Strings escape the quote, the backslash
and the control characters only; a number with a fraction takes the shortest layout of its
digits: positional from `1e-5` up to `1e13`, otherwise one digit before the point and an
exponent.
-/

namespace SubtitleQueue.Json

/-- The escaped form of one character inside a string. -/
def escapeChar (c : Char) : String :=
  match c with
  | '"' => "\\\""
  | '\\' => "\\\\"
  | '\n' => "\\n"
  | '\r' => "\\r"
  | '\t' => "\\t"
  | '\x08' => "\\b"
  | '\x0c' => "\\f"
  | c =>
    if c.toNat < 0x20 then
      let hex := Nat.toDigits 16 c.toNat
      "\\u" ++ String.ofList (List.replicate (4 - hex.length) '0' ++ hex)
    else c.toString

/-- A string literal. -/
def quote (s : String) : String :=
  "\"" ++ String.join (s.toList.map escapeChar) ++ "\""

/-- The decimal digits of a positive number and its exponent, trailing zeros moved into the
exponent. -/
def normalDigits (m : Nat) (e : Int) : Nat × Int :=
  if h : m ≠ 0 ∧ m % 10 = 0 then normalDigits (m / 10) (e + 1) else (m, e)
termination_by m
decreasing_by omega

/-- The layout of a number with a fraction: digits `ds` times `10 ^ e`. -/
def floatText (neg : Bool) (m : Nat) (e : Int) : String :=
  let sign := if neg then "-" else ""
  if m == 0 then sign ++ "0.0" else
  let (m, e) := normalDigits m e
  let ds := toString m
  let len : Int := ds.length
  let kk := len + e
  let zeros (n : Int) := String.ofList (List.replicate n.toNat '0')
  sign ++
    if 0 ≤ e && kk ≤ 13 then ds ++ zeros e ++ ".0"
    else if 0 < kk && kk ≤ 13 then
      String.ofList (ds.toList.take kk.toNat) ++ "." ++ String.ofList (ds.toList.drop kk.toNat)
    else if -6 < kk && kk ≤ 0 then "0." ++ zeros (-kk) ++ ds
    else
      let rest := String.ofList (ds.toList.drop 1)
      String.ofList (ds.toList.take 1) ++ (if rest.isEmpty then "" else "." ++ rest) ++
        "e" ++ toString (kk - 1)

/-- The text of a number. -/
def numberText (n : JsonNumber) : String :=
  if n.isFloat then floatText (n.mantissa < 0) n.mantissa.natAbs n.exponent
  else match n.toInt? with
    | some i => toString i
    | none => floatText (n.mantissa < 0) n.mantissa.natAbs n.exponent

mutual

/-- Compact text: no blank between tokens. -/
def render : Json → String
  | .null => "null"
  | .bool b => if b then "true" else "false"
  | .num n => numberText n
  | .str s => quote s
  | .arr xs => "[" ++ renderItems xs ++ "]"
  | .obj fs => "\x7b" ++ renderFields fs ++ "\x7d"

/-- The items of an array, comma separated. -/
def renderItems : List Json → String
  | [] => ""
  | [x] => render x
  | x :: xs => render x ++ "," ++ renderItems xs

/-- The fields of an object, comma separated. -/
def renderFields : List (String × Json) → String
  | [] => ""
  | [(k, v)] => quote k ++ ":" ++ render v
  | (k, v) :: fs => quote k ++ ":" ++ render v ++ "," ++ renderFields fs

end

mutual

/-- Indented text: one item or field a line, two spaces a level. -/
def pretty (indent : String) : Json → String
  | .arr [] => "[]"
  | .obj [] => "\x7b\x7d"
  | .arr xs => "[\n" ++ prettyItems (indent ++ "  ") xs ++ "\n" ++ indent ++ "]"
  | .obj fs => "\x7b\n" ++ prettyFields (indent ++ "  ") fs ++ "\n" ++ indent ++ "\x7d"
  | j => render j

/-- The items of an indented array. -/
def prettyItems (indent : String) : List Json → String
  | [] => ""
  | [x] => indent ++ pretty indent x
  | x :: xs => indent ++ pretty indent x ++ ",\n" ++ prettyItems indent xs

/-- The fields of an indented object. -/
def prettyFields (indent : String) : List (String × Json) → String
  | [] => ""
  | [(k, v)] => indent ++ quote k ++ ": " ++ pretty indent v
  | (k, v) :: fs => indent ++ quote k ++ ": " ++ pretty indent v ++ ",\n" ++ prettyFields indent fs

end

end SubtitleQueue.Json
