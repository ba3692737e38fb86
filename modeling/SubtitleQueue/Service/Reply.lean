import SubtitleQueue.Json.Value

/-!
Shapes of service answers: a value under `value`, a failure as its kind and message, and
positioned texts as `[position, text]` pairs.
-/

namespace SubtitleQueue.Service

/-- A failure of kind `kind`, with its message. -/
def failure (kind message : String) : Json :=
  .obj [("error", .str kind), ("message", .str message)]

/-- A malformed request. -/
def badInput (message : String) : Json := failure "bad_input" message

/-- A plain failure of the program, reported by its message. -/
def plainFailure (message : String) : Json := failure "Error" message

/-- An answer holding one value. -/
def valueReply (v : Json) : Json := .obj [("value", v)]

/-- A `[position, text]` pair. -/
def itemJson (p : Nat × String) : Json := .arr [.nat p.1, .str p.2]

/-- A list of `[position, text]` pairs. -/
def itemsJson (ps : List (Nat × String)) : Json := .arr (ps.map itemJson)

/-- The texts at which an HTTP client's own wording of a failure begins. -/
def transportMarks : List String :=
  ["error sending request", "error decoding response body", "builder error",
   "request or response body error"]

/-- A message with the HTTP client's wording, from where it begins to the end, written as
`<transport error>`. -/
def hideTransport (s : String) : String :=
  let heads := transportMarks.filterMap fun m =>
    match s.splitOn m with
    | head :: _ :: _ => some head
    | _ => none
  match heads.foldl (fun (acc : Option String) h => match acc with
      | some a => if h.length < a.length then some h else some a
      | none => some h) none with
  | some head => head ++ "<transport error>"
  | none => s

end SubtitleQueue.Service
