import SubtitleQueue.Language.Code
import SubtitleQueue.Text.Markup
import SubtitleQueue.Service.Request
import SubtitleQueue.Service.Reply

/-!
Service answers about language codes and the text of subtitle lines.
-/

namespace SubtitleQueue.Service

open Language in
/-- Answers a language code question: `validate`, `normalize` or `name`. -/
def languageReply (j : Json) : Decode Json := do
  let fn ← text j "fn"
  let code ← text j "code"
  let result ← match fn with
    | "validate" => pure (validate code)
    | "normalize" => pure (normalize code)
    | "name" => pure (name code)
    | other => throw ("unknown fn '" ++ other ++ "'")
  pure <| match result with
    | .ok v => valueReply (.str v)
    | .error e => plainFailure e.message

/-- Whether two codes name the same language. -/
def languageMatchReply (j : Json) : Decode Json := do
  let a ← text j "a"
  let b ← text j "b"
  pure (valueReply (.bool (Language.sameLanguage a b)))

/-- A question about one line of subtitle text. -/
def lineReply (f : String → Json) (j : Json) : Decode Json := do
  let t ← text j "text"
  pure (valueReply (f t))

/-- Whether a line has something to say. -/
def meaningfulReply : Json → Decode Json := lineReply (.bool ∘ Text.isMeaningful)

/-- The spoken text of a line. -/
def removeMarkupReply : Json → Decode Json := lineReply (.str ∘ Text.removeMarkup)

/-- A line without style markup. -/
def stripFormattingReply : Json → Decode Json := lineReply (.str ∘ Text.stripFormatting)

/-- A line wrapped at a width. -/
def rewrapReply (j : Json) : Decode Json := do
  let t ← text j "text"
  let width ← natural j "max"
  pure (valueReply (.str (Text.rewrap t width)))

/-- A translated line repaired against its source. -/
def repairedLineReply (f : String → String → String) (j : Json) : Decode Json := do
  let o ← text j "original"
  let t ← text j "translated"
  pure (valueReply (.str (f o t)))

end SubtitleQueue.Service
