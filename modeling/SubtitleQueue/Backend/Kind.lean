import SubtitleQueue.Text.Case

/-!
The kinds of backend a configuration can name: a local model server, or the built-in mock.
-/

namespace SubtitleQueue

/-- The kind of translating backend. -/
inductive BackendKind where
  | ollama
  | mock
  deriving Repr, DecidableEq, Inhabited

namespace BackendKind

/-- The configured name. -/
def name : BackendKind → String
  | .ollama => "ollama"
  | .mock => "mock"

/-- The kind named by a text, in any case. -/
def ofName? (s : String) : Option BackendKind :=
  [BackendKind.ollama, .mock].find? (·.name == Text.lower s)

end BackendKind

end SubtitleQueue
