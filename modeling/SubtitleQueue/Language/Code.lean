import SubtitleQueue.Language.Catalogue
import SubtitleQueue.Text.Blank
import SubtitleQueue.Text.Case

/-!
Language codes. A tag such as `pt-BR` or `zh_Hant` names the language of its first subtag; a
two-letter subtag is read as an ISO 639-1 code, a three-letter one as ISO 639-3, where the
bibliographic ISO 639-2 codes (`fre`, `ger`, …) are accepted for their terminological twins.
Everything else is no language.
-/

namespace SubtitleQueue.Language

/-- Failures of the language operations. -/
inductive CodeError where
  | invalid (code : String)
  | notNormalizable (code : String)
  | unknownName (code : String)
  deriving DecidableEq, Repr

/-- The text of a failure. -/
def CodeError.message : CodeError → String
  | .invalid c => "Invalid language code: " ++ c
  | .notNormalizable c => "Cannot normalize invalid language code: " ++ c
  | .unknownName c => "Failed to get language from code: " ++ c

/-- Bibliographic codes and the terminological codes they stand for. -/
def bibliographic : List (String × String) :=
  [("fre", "fra"), ("ger", "deu"), ("dut", "nld"), ("gre", "ell"), ("chi", "zho"),
   ("cze", "ces"), ("ice", "isl"), ("alb", "sqi"), ("arm", "hye"), ("baq", "eus"),
   ("bur", "mya"), ("per", "fas"), ("geo", "kat"), ("may", "msa"), ("mac", "mkd"),
   ("rum", "ron"), ("slo", "slk"), ("wel", "cym")]

/-- The primary subtag of a tag: blanks trimmed, cut at the first `-` or `_`, lower case. -/
def primarySubtag (code : String) : String :=
  let cs := (Text.trim code).toList.takeWhile (fun c => c != '-' && c != '_')
  Text.lower (String.ofList cs)

/-- The catalogue entry that a tag names. Subtags are measured in bytes, so a two-letter
subtag with an accented letter is no code. -/
def lookup (code : String) : Option Entry :=
  let base := primarySubtag code
  match base.utf8ByteSize with
  | 2 => byTwoLetter base
  | 3 =>
    let base := ((bibliographic.find? (·.1 == base)).map (·.2)).getD base
    byThreeLetter base
  | _ => none

/-- A known tag, trimmed and in lower case. -/
def validate (code : String) : Except CodeError String :=
  match lookup code with
  | some _ => .ok (Text.lower (Text.trim code))
  | none => .error (.invalid code)

/-- The three-letter code of a known tag. -/
def normalize (code : String) : Except CodeError String :=
  match lookup code with
  | some e => .ok e.code
  | none => .error (.notNormalizable code)

/-- The English name of a known tag. -/
def name (code : String) : Except CodeError String :=
  match lookup code with
  | some e => .ok e.name
  | none => .error (.unknownName code)

/-- Two tags match when both are known and name the same language. -/
def sameLanguage (a b : String) : Bool :=
  match lookup a, lookup b with
  | some x, some y => x.code == y.code
  | _, _ => false

/-- Whether a text is a tag of two or three bytes that names a language, as a file name's
language part must be. -/
def isLanguageTag (tag : String) : Bool :=
  let n := tag.utf8ByteSize
  2 ≤ n && n ≤ 3 && (validate tag).toBool

end SubtitleQueue.Language
