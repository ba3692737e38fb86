/-!
Patterns over character lists. A pattern is a function that, at the front of a list, either
recognises a non-empty piece and returns the rest, or fails. Searching takes the leftmost
piece; replacing takes pieces left to right without overlap.
-/

namespace SubtitleQueue.Text

/-- A pattern: the rest of the list after a piece at its front. -/
abbrev Pattern := List Char → Option (List Char)

/-- The rest after a piece of `p` at the front, when that piece is not empty. -/
def Pattern.step? (p : Pattern) (cs : List Char) : Option { r : List Char // r.length < cs.length } :=
  match p cs with
  | some r => if h : r.length < cs.length then some ⟨r, h⟩ else none
  | none => none

/-- Replaces every piece of `p`, left to right, by `repl`. -/
def replaceAll (p : Pattern) (repl : List Char) (cs : List Char) : List Char :=
  match cs with
  | [] => []
  | c :: rest =>
    match p.step? (c :: rest) with
    | some ⟨r, _⟩ => repl ++ replaceAll p repl r
    | none => c :: replaceAll p repl rest
termination_by cs.length
decreasing_by
  all_goals simp only [List.length_cons] at *
  all_goals omega

/-- The leftmost piece of `p`. -/
def findFirst (p : Pattern) : List Char → Option (List Char)
  | [] => none
  | c :: rest =>
    match p.step? (c :: rest) with
    | some ⟨r, _⟩ => some ((c :: rest).take ((c :: rest).length - r.length))
    | none => findFirst p rest

/-- Whether `needle` occurs in `hay`. -/
def containsSeq (hay needle : List Char) : Bool :=
  match hay with
  | [] => needle.isEmpty
  | c :: rest => needle.isPrefixOf (c :: rest) || containsSeq rest needle

/-- The rest after a run of characters of `p`. -/
def dropRun (p : Char → Bool) (cs : List Char) : List Char := cs.dropWhile p

end SubtitleQueue.Text
