import SubtitleQueue.Subtitle.Cue
import SubtitleQueue.Text.Alnum
import SubtitleQueue.Text.Number

/-!
SubRip text. Reading is forgiving: lines are trimmed, a block is a sequence number, a timing
line and text lines, and a block that does not make a cue is skipped with a warning. Cues come
out sorted by start time (stable) and numbered from one. Writing puts the cues one after
another.
-/

namespace SubtitleQueue.Subtitle

open Text

/-- A digit of any script, as the timing pattern accepts it. -/
def isPatternDigit (c : Char) : Bool := isDecimalDigit c

/-- The value of a two- or three-digit field; a field with a digit outside ASCII reads as
zero. -/
def fieldValue (cs : List Char) : Nat := (digitsValue cs).getD 0

/-- A time `HH:MM:SS,mmm` (or with a point before the milliseconds) at the front of `cs`,
with the rest of the list. -/
def timeAt? (cs : List Char) : Option (Nat × List Char) :=
  match cs with
  | h1 :: h2 :: ':' :: m1 :: m2 :: ':' :: s1 :: s2 :: sep :: f1 :: f2 :: f3 :: rest =>
    if [h1, h2, m1, m2, s1, s2, f1, f2, f3].all isPatternDigit && (sep == ',' || sep == '.') then
      some ((fieldValue [h1, h2] * 3600 + fieldValue [m1, m2] * 60 + fieldValue [s1, s2]) * 1000
        + fieldValue [f1, f2, f3], rest)
    else none
  | _ => none

/-- A timing `start --> stop` at the front of `cs`. -/
def timingAt? (cs : List Char) : Option (Nat × Nat) :=
  match timeAt? cs with
  | some (start, ' ' :: '-' :: '-' :: '>' :: ' ' :: rest) =>
    match timeAt? rest with
    | some (stop, _) => some (start, stop)
    | none => none
  | _ => none

/-- The leftmost timing anywhere in a line. -/
def findTiming : List Char → Option (Nat × Nat)
  | [] => none
  | c :: cs =>
    match timingAt? (c :: cs) with
    | some t => some t
    | none => findTiming cs

/-- The reader's state between lines: the block being read and the cues read so far, last
first. -/
structure Reader where
  seq : Option Nat := none
  timing : Option (Nat × Nat) := none
  text : String := ""
  done : List Cue := []
  /-- The blocks that made no cue, last first: their numbers and why. -/
  skipped : List (Nat × CueError) := []

namespace Reader

/-- Ends the current block: it becomes a cue if it has a number, a timing and a valid cue,
and is skipped if the cue is not valid; the text is dropped either way. -/
def flush (r : Reader) : Reader :=
  match r.seq, r.timing with
  | some seq, some (start, stop) =>
    match Cue.make seq start stop r.text with
    | .ok c => { done := c :: r.done, skipped := r.skipped }
    | .error e => { done := r.done, skipped := (seq, e) :: r.skipped }
  | _, _ => { done := r.done, skipped := r.skipped }

/-- Reads one line. -/
def step (r : Reader) (line : String) : Reader :=
  let t := trim line
  if t.isEmpty then
    if r.timing.isSome && !r.text.isEmpty then r.flush else r
  else
    match (if r.seq.isNone && r.text.isEmpty then parseUnsigned t else none) with
    | some n => { r with seq := some n }
    | none =>
      match (if r.seq.isSome && r.timing.isNone then findTiming t.toList else none) with
      | some tm => { r with timing := some tm }
      | none =>
        if r.timing.isSome then
          { r with text := if r.text.isEmpty then t else r.text ++ "\n" ++ t }
        else r

/-- Ends the text. -/
def finish (r : Reader) : Reader :=
  if r.timing.isSome && !r.text.isEmpty then r.flush else r

end Reader

/-- Drops byte order marks at the front. -/
def dropMarks (s : String) : String :=
  String.ofList (s.toList.dropWhile (· == '\uFEFF'))

/-- Numbers cues from one in their order. -/
def renumber (cs : List Cue) : List Cue :=
  cs.zipIdx.map fun (c, i) => { c with seq := i + 1 }

/-- Sorts cues by start time, keeping the order of cues that start together. -/
def sortByStart (cs : List Cue) : List Cue :=
  cs.mergeSort (fun a b => a.start ≤ b.start)

/-- A SubRip text as read: its cues, sorted by start and numbered from one, and the blocks
skipped because they made no cue, with their numbers and why, in the order of the text. -/
structure Reading where
  cues : List Cue
  skipped : List (Nat × CueError)

/-- Reads a SubRip text. -/
def read (content : String) : Reading :=
  let r := ((lines (dropMarks content)).foldl Reader.step {}).finish
  { cues := renumber (sortByStart r.done.reverse), skipped := r.skipped.reverse }

/-- The cues of a SubRip text. -/
def parse (content : String) : List Cue := (read content).cues

/-- The warning for a skipped block. -/
def skipWarning : Nat × CueError → String
  | (seq, e) => "Skipping invalid subtitle entry " ++ toString seq ++ ": " ++ e.message

/-- The warnings of reading a SubRip text, one per skipped block. -/
def Reading.warnings (r : Reading) : List String := r.skipped.map skipWarning

/-- The SubRip text of cues. -/
def render (cs : List Cue) : String :=
  String.join (cs.map Cue.render)

/-- Sorts cues by start and pulls each end back to just before the next start, never before
its own start; the count is of the cues that changed. -/
def fixOverlaps (cs : List Cue) : Nat × List Cue :=
  let sorted := sortByStart cs
  let rec go : List Cue → Nat × List Cue
    | a :: b :: rest =>
      let (n, tail) := go (b :: rest)
      if a.stop > b.start then (n + 1, { a with stop := max (b.start - 1) a.start } :: tail)
      else (n, a :: tail)
    | xs => (0, xs)
  go sorted

end SubtitleQueue.Subtitle
