import SubtitleQueue.Json.Value

/-!
Reading the fields of a service request. A request is a JSON object; a field that is absent
or `null` takes its default, and a field of the wrong shape refuses the request with a
message that names it.
-/

namespace SubtitleQueue.Service

/-- The result of reading a request: a value, or the reason the request is malformed. -/
abbrev Decode := Except String

/-- A field that must be present. -/
def need (j : Json) (key : String) : Decode Json :=
  match j.field? key with
  | some v => .ok v
  | none => .error ("missing field '" ++ key ++ "'")

/-- Reads a field with `f`, or takes `d` when it is absent. -/
def withDefault {α : Type} (j : Json) (key : String) (d : α) (f : Json → Option α) : Decode α :=
  match j.field? key with
  | none => .ok d
  | some v =>
    match f v with
    | some a => .ok a
    | none => .error ("field '" ++ key ++ "' has the wrong type")

/-- Reads a field that must be present with `f`. -/
def required {α : Type} (j : Json) (key : String) (f : Json → Option α) : Decode α := do
  let v ← need j key
  match f v with
  | some a => .ok a
  | none => .error ("field '" ++ key ++ "' has the wrong type")

/-- Reads an optional field with `f`. -/
def optional {α : Type} (j : Json) (key : String) (f : Json → Option α) : Decode (Option α) :=
  match j.field? key with
  | none => .ok none
  | some v =>
    match f v with
    | some a => .ok (some a)
    | none => .error ("field '" ++ key ++ "' has the wrong type")

/-- A text field. -/
def text (j : Json) (key : String) : Decode String := required j key Json.str?

/-- A text field with a default. -/
def textD (j : Json) (key : String) (d : String) : Decode String := withDefault j key d Json.str?

/-- A natural number field. -/
def natural (j : Json) (key : String) : Decode Nat := required j key Json.nat?

/-- A natural number field with a default. -/
def naturalD (j : Json) (key : String) (d : Nat) : Decode Nat := withDefault j key d Json.nat?

/-- An integer field. -/
def integer (j : Json) (key : String) : Decode Int := required j key Json.int?

/-- A flag with a default. -/
def flagD (j : Json) (key : String) (d : Bool) : Decode Bool := withDefault j key d Json.bool?

/-- Reads every item of a list with `f`. -/
def eachOf {α : Type} (f : Json → Option α) (xs : List Json) : Option (List α) :=
  xs.mapM f

/-- A list field read item by item, empty when absent. -/
def listD {α : Type} (j : Json) (key : String) (f : Json → Option α) : Decode (List α) :=
  withDefault j key [] (fun v => v.arr? >>= eachOf f)

/-- A text list field, empty when absent. -/
def texts (j : Json) (key : String) : Decode (List String) := listD j key Json.str?

/-- A pair `[position, text]`. -/
def item? (j : Json) : Option (Nat × String) :=
  match j with
  | .arr [p, t] => do pure (← p.nat?, ← t.str?)
  | _ => none

/-- A list of `[position, text]` pairs, empty when absent. -/
def items (j : Json) (key : String) : Decode (List (Nat × String)) := listD j key item?

end SubtitleQueue.Service
