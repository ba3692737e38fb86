/-!
Blank characters and the text operations built on them: trimming, splitting into words and
splitting into lines. A blank is a character of the Unicode `White_Space` property, so a
no-break space or an ideographic space counts and a zero-width space does not.
-/

namespace SubtitleQueue.Text

/-- The `White_Space` property: tab to carriage return, space, next line, no-break space,
ogham space, the spaces from en quad to hair space, the line and paragraph separators, the
narrow no-break space, the medium mathematical space and the ideographic space. -/
def isBlank (c : Char) : Bool :=
  let n := c.toNat
  (0x09 ≤ n && n ≤ 0x0D) || n == 0x20 || n == 0x85 || n == 0xA0 || n == 0x1680 ||
    (0x2000 ≤ n && n ≤ 0x200A) || n == 0x2028 || n == 0x2029 || n == 0x202F ||
    n == 0x205F || n == 0x3000

/-- Drops blanks at the front. -/
def dropBlanks (cs : List Char) : List Char :=
  cs.dropWhile isBlank

/-- The text without blanks at either end. -/
def trim (s : String) : String :=
  String.ofList (dropBlanks (dropBlanks s.toList).reverse).reverse

/-- The text without blanks at the front. -/
def trimStart (s : String) : String :=
  String.ofList (dropBlanks s.toList)

/-- The text without blanks at the end. -/
def trimEnd (s : String) : String :=
  String.ofList (dropBlanks s.toList.reverse).reverse

/-- Whether the text has only blanks. -/
def isBlankText (s : String) : Bool :=
  s.toList.all isBlank

/-- Cuts a character list at every character that satisfies `p`; the pieces keep their
order and the cut characters are dropped. -/
def cutWhere (p : Char → Bool) : List Char → List (List Char)
  | [] => [[]]
  | c :: cs =>
    match cutWhere p cs with
    | [] => [[c]]
    | w :: ws => if p c then [] :: w :: ws else (c :: w) :: ws

/-- The words of a text: the maximal runs of non-blank characters. -/
def words (s : String) : List String :=
  ((cutWhere isBlank s.toList).filter (· ≠ [])).map String.ofList

/-- The lines of a text. A line ends at a line feed, and a carriage return just before it
belongs to the ending; the ending after the last line is optional, so an empty text has no
line and `"a\n"` has one. -/
def lines (s : String) : List String :=
  let pieces := cutWhere (· == '\n') s.toList
  let pieces := if pieces.getLast? == some [] then pieces.dropLast else pieces
  let count := pieces.length
  (pieces.zipIdx.map fun (p, i) =>
    -- a carriage return is part of an ending only when a line feed follows it
    if i + 1 < count || s.endsWith "\n" then
      if p.getLast? == some '\r' then p.dropLast else p
    else p).map String.ofList

/-- The number of characters (code points) of a text. -/
def charCount (s : String) : Nat := s.length

end SubtitleQueue.Text
