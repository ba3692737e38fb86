/-!
JSON values as the queue reads and writes them: configuration files, backend requests and
answers, and the records the service prints. Objects keep their fields in the order they were
written, and a number keeps the exact decimal it was written as.
-/

namespace SubtitleQueue

/-- A decimal number `mantissa · 10 ^ exponent`. `isFloat` records that it was written with
a fraction or an exponent, which decides whether an integer field accepts it. -/
structure JsonNumber where
  mantissa : Int
  exponent : Int := 0
  isFloat : Bool := false
  deriving DecidableEq, Repr, Inhabited

/-- A JSON value. -/
inductive Json where
  | null
  | bool (b : Bool)
  | num (n : JsonNumber)
  | str (s : String)
  | arr (items : List Json)
  | obj (fields : List (String × Json))
  deriving Repr, Inhabited

namespace JsonNumber

/-- The value when it is a whole number. -/
def toInt? (n : JsonNumber) : Option Int :=
  if n.exponent ≥ 0 then some (n.mantissa * Int.ofNat (Nat.pow 10 n.exponent.toNat))
  else
    let d : Int := Int.ofNat (Nat.pow 10 (-n.exponent).toNat)
    if n.mantissa % d == 0 then some (n.mantissa / d) else none

end JsonNumber

namespace Json

/-- A whole number. -/
def int (i : Int) : Json := .num { mantissa := i }

/-- A natural number. -/
def nat (n : Nat) : Json := .num { mantissa := n }

/-- An optional value, `null` when absent. -/
def opt {α : Type} (f : α → Json) : Option α → Json
  | some a => f a
  | none => .null

/-- A list of values. -/
def list {α : Type} (f : α → Json) (xs : List α) : Json := .arr (xs.map f)

/-- The value of a field of an object; `null` counts as absent. -/
def field? (j : Json) (key : String) : Option Json :=
  match j with
  | .obj fs =>
    match fs.find? (·.1 == key) with
    | some (_, .null) => none
    | some (_, v) => some v
    | none => none
  | _ => none

/-- Whether the value is `null`. -/
def isNull : Json → Bool
  | .null => true
  | _ => false

/-- The text of a string value. -/
def str? : Json → Option String
  | .str s => some s
  | _ => none

/-- The flag of a boolean value. -/
def bool? : Json → Option Bool
  | .bool b => some b
  | _ => none

/-- The whole number of a numeric value. -/
def int? : Json → Option Int
  | .num n => n.toInt?
  | _ => none

/-- The natural number of a numeric value. -/
def nat? (j : Json) : Option Nat :=
  match j.int? with
  | some i => if i ≥ 0 then some i.toNat else none
  | none => none

/-- The items of an array. -/
def arr? : Json → Option (List Json)
  | .arr xs => some xs
  | _ => none

/-- The fields of an object. -/
def obj? : Json → Option (List (String × Json))
  | .obj fs => some fs
  | _ => none

mutual

/-- Structural equality; objects compare field by field in order. -/
def beq : Json → Json → Bool
  | .null, .null => true
  | .bool a, .bool b => a == b
  | .num a, .num b => a == b
  | .str a, .str b => a == b
  | .arr as, .arr bs => beqList as bs
  | .obj as, .obj bs => beqFields as bs
  | _, _ => false

/-- Equality of two lists of values. -/
def beqList : List Json → List Json → Bool
  | [], [] => true
  | a :: as, b :: bs => beq a b && beqList as bs
  | _, _ => false

/-- Equality of two lists of fields. -/
def beqFields : List (String × Json) → List (String × Json) → Bool
  | [], [] => true
  | (k, a) :: as, (l, b) :: bs => k == l && beq a b && beqFields as bs
  | _, _ => false

end

instance : BEq Json := ⟨beq⟩

end Json

end SubtitleQueue
