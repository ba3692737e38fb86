import SubtitleQueue.Language.Data

/-!
The catalogue of languages, and its look-ups by three-letter and by two-letter code. A
three-letter code is looked for among the languages of its initial letter only; the languages
with a two-letter code form a list of their own.
-/

namespace SubtitleQueue.Language

/-- The languages whose three-letter code starts with a letter. -/
def entriesFrom : Char → List Entry
  | 'a' => entriesA
  | 'b' => entriesB
  | 'c' => entriesC
  | 'd' => entriesD
  | 'e' => entriesE
  | 'f' => entriesF
  | 'g' => entriesG
  | 'h' => entriesH
  | 'i' => entriesI
  | 'j' => entriesJ
  | 'k' => entriesK
  | 'l' => entriesL
  | 'm' => entriesM
  | 'n' => entriesN
  | 'o' => entriesO
  | 'p' => entriesP
  | 'q' => entriesQ
  | 'r' => entriesR
  | 's' => entriesS
  | 't' => entriesT
  | 'u' => entriesU
  | 'v' => entriesV
  | 'w' => entriesW
  | 'x' => entriesX
  | 'y' => entriesY
  | 'z' => entriesZ
  | _ => []

/-- The languages of the catalogue, in code order. -/
def entries : List Entry :=
  entriesA ++ entriesB ++ entriesC ++ entriesD ++ entriesE ++ entriesF ++ entriesG ++ entriesH ++
    entriesI ++ entriesJ ++ entriesK ++ entriesL ++ entriesM ++ entriesN ++ entriesO ++ entriesP ++
    entriesQ ++ entriesR ++ entriesS ++ entriesT ++ entriesU ++ entriesV ++ entriesW ++ entriesX ++
    entriesY ++ entriesZ

/-- The languages that have a two-letter code. -/
def twoLetterEntries : List Entry := entries.filter (·.twoLetter.isSome)

/-- The language of a three-letter code. -/
def byThreeLetter (code : String) : Option Entry :=
  match code.toList with
  | c :: _ => (entriesFrom c).find? (·.code == code)
  | [] => none

/-- The language of a two-letter code. -/
def byTwoLetter (code : String) : Option Entry := twoLetterEntries.find? (·.twoLetter == some code)

end SubtitleQueue.Language
