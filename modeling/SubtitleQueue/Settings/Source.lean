import SubtitleQueue.Store.Settings
import SubtitleQueue.Json.Schema
import SubtitleQueue.Text.Blank

/-!
Where the queue reads its runtime settings: a fixed set of values that can be changed in
place, or the settings table of the store.

The language lists (`target_languages`, `source_languages`) hold JSON lists of
`{"name", "code"}` entries; the name may be left out. A list that is missing or blank is
empty; one that does not read as such a list is an error naming the setting, with the
reader's message and position.
-/

namespace SubtitleQueue.Settings

open Store Json

/-- Where settings are read. -/
inductive Source where
  /-- Values held in place. -/
  | fixed (values : List (String × String))
  /-- The settings table of the store. -/
  | stored
  deriving Repr, Inhabited

/-- A language of a language list. -/
structure Language where
  name : String := ""
  code : String
  deriving Repr, DecidableEq, Inhabited

/-- The shape of a language list. -/
def languagesShape : Shape :=
  .list (.record "LanguageSetting" [("name", .text), ("code", .required .text)])

/-- A language from what the reader took. -/
def Language.ofJson (j : Json) : Language :=
  { name := ((j.field? "name").bind Json.str?).getD ""
    code := ((j.field? "code").bind Json.str?).getD "" }

/-- Reads the language list held by a setting. -/
def readLanguages (key : String) (raw : Option String) : Except Fault (List Language) :=
  match raw with
  | some text =>
    if Text.isBlankText text then .ok []
    else match Reader.documentOfText languagesShape text with
      | .ok (.arr items) => .ok (items.map Language.ofJson)
      | .ok _ => .ok []
      | .error p => .error ((Fault.msg p.text).within ("Setting '" ++ key ++ "' is not a valid JSON list"))
  | none => .ok []

namespace Source

/-- Replaces a value held in place; the store's settings are written through the store. -/
def set (s : Source) (key value : String) : Source :=
  match s with
  | .fixed vs => .fixed ((vs.filter (·.1 != key)) ++ [(key, value)])
  | .stored => .stored

/-- The value of a setting. -/
def get (s : Source) (key : String) : StoreOp (Option String) :=
  match s with
  | .fixed vs => pure ((vs.find? (·.1 == key)).map (·.2))
  | .stored => getSetting key

/-- The values of several settings; keys without one are left out. -/
def getMany (s : Source) (keys : List String) : StoreOp (List (String × String)) :=
  match s with
  | .fixed vs => pure (keys.filterMap fun k => (vs.find? (·.1 == k)).map (k, ·.2))
  | .stored => getSettings keys

/-- The language list held by a setting. -/
def languages (s : Source) (key : String) : StoreOp (List Language) := do
  StoreOp.lift (readLanguages key (← s.get key))

end Source

end SubtitleQueue.Settings
