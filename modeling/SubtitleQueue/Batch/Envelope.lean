import SubtitleQueue.Text.Blank
import SubtitleQueue.Text.Alnum
import SubtitleQueue.Text.Number

/-!
The envelope in which a batch of lines travels to a backend and back. Each line is written
under a marker `<<ENTRY_n>>` with its position `n`, the batch ends with `<<END>>`, and
context lines go before and after under headings that say not to translate them.

Reading an answer looks only before the first end marker. A marker whose number is not a
position is ignored; each other marker of a requested position owns the text up to the next
such marker, trimmed, and the last marker of a position wins.
-/

namespace SubtitleQueue.Batch

/-- A line of a batch and its position. -/
abbrev Item := Nat × String

/-- The request text of a batch. -/
def encode (items : List Item) (pre post : List String) : String :=
  let head := if pre.isEmpty then ""
    else "[Context before, do not translate]\n" ++ String.join (pre.map (· ++ "\n")) ++ "\n"
  let body := String.join (items.map fun (p, t) => "<<ENTRY_" ++ toString p ++ ">>\n" ++ t ++ "\n")
  let tail := if post.isEmpty then ""
    else "\n\n[Context after, do not translate]\n" ++ "\n".intercalate post
  head ++ body ++ "<<END>>" ++ tail

/-- The text before the first occurrence of `mark`, or all of it. -/
def before (mark : List Char) : List Char → List Char
  | [] => []
  | c :: cs => if mark.isPrefixOf (c :: cs) then [] else c :: before mark cs

/-- A marker at the front: the digits it carries and the rest after it. -/
def markerAt? (cs : List Char) : Option (List Char × List Char) :=
  match cs with
  | '<' :: '<' :: 'E' :: 'N' :: 'T' :: 'R' :: 'Y' :: '_' :: rest =>
    let ds := rest.takeWhile Text.isDecimalDigit
    match rest.drop ds.length with
    | '>' :: '>' :: after => if ds.isEmpty then none else some (ds, after)
    | _ => none
  | _ => none

/-- The text before the first marker, and each marker's digits with the text after it up to
the next marker. -/
def splitMarkers : List Char → List Char × List (List Char × List Char)
  | [] => ([], [])
  | c :: rest =>
    match markerAt? (c :: rest) with
    | some (ds, after) =>
      if after.length < rest.length + 1 then
        let (t, ms) := splitMarkers after
        ([], (ds, t) :: ms)
      else
        let (t, ms) := splitMarkers rest
        (c :: t, ms)
    | none =>
      let (t, ms) := splitMarkers rest
      (c :: t, ms)
termination_by cs => cs.length

/-- Writes a marker back, as the text of a marker that names no position. -/
def markerText (ds : List Char) : List Char := "<<ENTRY_".toList ++ ds ++ ">>".toList

/-- Each marker that names a position with its text, which runs up to the next such marker:
markers that name no position stay part of the text. -/
def positioned : List (List Char × List Char) → List (Nat × List Char)
  | [] => []
  | (ds, t) :: rest =>
    match Text.parseUnsigned (String.ofList ds) with
    | some p =>
      let extra := (rest.takeWhile fun m => (Text.parseUnsigned (String.ofList m.1)).isNone).flatMap
        fun (ds', t') => markerText ds' ++ t'
      (p, t ++ extra) :: positioned rest
    | none => positioned rest

/-- The translations in an answer for the requested positions, ordered by position. -/
def decode (answer : String) (requested : List Item) : List (Nat × String) :=
  let body := before "<<END>>".toList answer.toList
  let found := (positioned (splitMarkers body).2).filterMap fun (p, t) =>
    if requested.any (·.1 == p) then
      let text := Text.trim (String.ofList t)
      if text.isEmpty then none else some (p, text)
    else none
  -- the last text of a position wins
  let positions := (found.map (·.1)).eraseDups.mergeSort (· ≤ ·)
  positions.filterMap fun p => (found.reverse.find? (·.1 == p)).map fun (_, t) => (p, t)

end SubtitleQueue.Batch
