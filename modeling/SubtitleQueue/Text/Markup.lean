import SubtitleQueue.Text.Pattern
import SubtitleQueue.Text.Blank
import SubtitleQueue.Text.Alnum

/-!
Subtitle markup and the shape of subtitle lines.

Two kinds of markup occur in subtitles: override blocks `{\…}` (a position tag `{\an8}` is
one) and tags `<i>`, `</font>`. Before a line is sent to a backend its markup is removed;
after, style tags and override blocks are stripped but the position tag is kept. Long lines
are rewrapped greedily, and a translated line that lost its line breaks gets them back in
proportion to the lengths of the source lines.
-/

namespace SubtitleQueue.Text

/-- An override block: `{\`, anything but a closing brace, `}`. -/
def overrideBlock : Pattern
  | '{' :: '\\' :: rest =>
    match rest.dropWhile (· != '}') with
    | '}' :: after => some after
    | _ => none
  | _ => none

/-- A tag: `<`, an optional `/`, an ASCII letter, anything but `>`, then `>`. -/
def tag : Pattern
  | '<' :: rest =>
    let rest := match rest with
      | '/' :: r => r
      | r => r
    match rest with
    | c :: r =>
      if c.isAlpha then
        match r.dropWhile (· != '>') with
        | '>' :: after => some after
        | _ => none
      else none
    | [] => none
  | _ => none

/-- A position tag: `{\an`, one digit of any script, `}`. -/
def positionTag : Pattern
  | '{' :: '\\' :: 'a' :: 'n' :: d :: '}' :: rest => if isDecimalDigit d then some rest else none
  | _ => none

/-- A letter of a style tag name, compared ignoring case; the long s counts as an s. -/
def letterIs (want : Char) (c : Char) : Bool :=
  c.toLower == want || (want == 's' && c == '\u017F')

/-- The rest after one of the style names `i`, `b`, `u`, `s`, `font`, in that order of
preference. -/
def styleNames (cs : List Char) : List (List Char) :=
  let single := ['i', 'b', 'u', 's'].filterMap fun w =>
    match cs with
    | c :: r => if letterIs w c then some r else none
    | [] => none
  let font := match cs with
    | f :: o :: n :: t :: r =>
      if letterIs 'f' f && letterIs 'o' o && letterIs 'n' n && letterIs 't' t then [r] else []
    | _ => []
  single ++ font

/-- The end of a style tag after its name: optionally a blank and anything but `>`, then `>`. -/
def styleTail : Pattern
  | c :: r =>
    if isBlank c then
      match r.dropWhile (· != '>') with
      | '>' :: after => some after
      | _ => none
    else if c == '>' then some r
    else none
  | [] => none

/-- A style tag: `<`, an optional `/`, a style name in any case, optional attributes after a
blank, `>`. -/
def styleTag : Pattern
  | '<' :: rest =>
    let starts := match rest with
      | '/' :: r => [r, rest]
      | _ => [rest]
    (starts.flatMap styleNames).findSome? styleTail
  | _ => none

/-- The text without override blocks and tags. -/
def bare (s : String) : List Char :=
  replaceAll tag [] (replaceAll overrideBlock [] s.toList)

/-- Whether a line has something to say: a letter or digit outside the markup. -/
def isMeaningful (s : String) : Bool :=
  (bare s).any isAlnum

/-- Runs of spaces and tabs become one space; `inRun` says a space was just written. -/
def squeezeSpaces : List Char → Bool → List Char
  | [], _ => []
  | c :: rest, inRun =>
    if c == ' ' || c == '\t' then
      if inRun then squeezeSpaces rest true else ' ' :: squeezeSpaces rest true
    else c :: squeezeSpaces rest false

/-- The spoken text: markup removed, each line trimmed with its blank runs squeezed, empty
lines dropped. -/
def removeMarkup (s : String) : String :=
  let ls := (lines (String.ofList (bare s))).map fun l =>
    String.ofList (squeezeSpaces (trim l).toList false)
  "\n".intercalate (ls.filter (!·.isEmpty))

/-- Style tags and override blocks stripped and the result trimmed, with the first position
tag of the source kept in front. -/
def stripFormatting (s : String) : String :=
  let position := findFirst positionTag s.toList
  let stripped := replaceAll overrideBlock [] (replaceAll styleTag [] s.toList)
  let stripped := trim (String.ofList stripped)
  match position with
  | some t => String.ofList t ++ stripped
  | none => stripped

/-- One word of greedy wrapping, given the lines done and the line being filled: the word goes
on the line after a space when it fits, or else the line is done and the word starts the next.
A word longer than the width still starts a line of its own. -/
def wrapStep (width : Nat) (acc : List String × String) (w : String) : List String × String :=
  let (done, cur) := acc
  let needed := if cur.isEmpty then w.length else cur.length + 1 + w.length
  let (done, cur) := if needed > width && !cur.isEmpty then (done ++ [cur], "") else (done, cur)
  (done, if cur.isEmpty then w else cur ++ " " ++ w)

/-- The lines done, and the line being filled after them when it has anything. -/
def closeLines (done : List String) (cur : String) : List String :=
  if cur.isEmpty then done else done ++ [cur]

/-- Greedy wrapping of the words at `width` characters a line; a text whose lines all fit,
or a width of zero, stays as it is. -/
def rewrap (s : String) (width : Nat) : String :=
  if width == 0 || (lines s).all (·.length ≤ width) then s
  else
    let (done, cur) := (words s).foldl (wrapStep width) ([], "")
    "\n".intercalate (closeLines done cur)

/-- Puts the source's first position tag in front of a translated line that lost it, unless
the line already starts with a brace. -/
def keepPositionTag (original translated : String) : String :=
  match findFirst positionTag original.toList with
  | some t =>
    if !containsSeq translated.toList t && translated.toList.head? != some '{' then String.ofList t ++ translated
    else translated
  | none => translated

/-- The characters of a translation of `totalOut` characters that source line `i` stands for:
its share of the `totalSrc` characters of the source, rounded down. -/
def lineShare (src : List String) (totalOut totalSrc i : Nat) : Nat :=
  ((src[i]?.map String.length).getD 0) * totalOut / totalSrc

/-- Where restoring line breaks stands: the lines done, the line being filled, the index of
the source line it stands for, the characters placed so far (line breaks not counted) and the
count the line is to reach. -/
structure Breaking where
  done : List String
  cur : String
  boundary : Nat
  placed : Nat
  target : Nat

/-- One word of restoring line breaks against the source lines `src`: the line being filled
is done before the word once it has words, the characters placed reach its target and a
source line is left for the next, whose share then adds to the target. The word goes on the
line after a space. -/
def breakStep (src : List String) (share : Nat → Nat) (st : Breaking) (w : String) : Breaking :=
  let st := if !st.cur.isEmpty && st.placed ≥ st.target && st.boundary + 1 < src.length then
      { st with done := st.done ++ [st.cur], cur := "", boundary := st.boundary + 1,
                target := st.target + share (st.boundary + 1) }
    else st
  if st.cur.isEmpty then { st with cur := w, placed := st.placed + w.length }
  else { st with cur := st.cur ++ " " ++ w, placed := st.placed + 1 + w.length }

/-- Breaks a one-line translation of a multi-line source into as many lines, each ending
once the characters placed reach the running share of the source lines' lengths. -/
def keepLineBreaks (original translated : String) : String :=
  let src := lines original
  if src.length ≤ 1 || (lines translated).length != 1 then translated
  else
    let totalSrc := (src.map String.length).foldl (· + ·) 0
    if totalSrc == 0 then translated
    else
      let share := lineShare src translated.length totalSrc
      let st := (words translated).foldl (breakStep src share) ⟨[], "", 0, 0, share 0⟩
      "\n".intercalate (closeLines st.done st.cur)

end SubtitleQueue.Text
