import SubtitleQueue.Config.Check
import SubtitleQueue.Service.Files
import SubtitleQueue.Service.Errors

/-!
Service answer for the configuration file: read it (or write the default one where there is
none), and check it.
-/

namespace SubtitleQueue.Service

open Config

/-- A configuration file read or created, and checked. -/
def configReply (j : Json) : Decode Json := do
  let content ← optional j "content" bytes?
  let path := underTemp "config.json"
  match content with
  | none =>
    let c : Config := {}
    pure (.obj [("config", c.toJson), ("valid", checkJson c), ("file_written", .bool true)])
  | some b =>
    match Config.read b.toList with
    | .ok c => pure (.obj [("config", c.toJson), ("valid", checkJson c), ("file_written", .bool true)])
    | .error p => pure (plainFailure ("Failed to parse config file: " ++ path ++ ": " ++ p.text))
where
  checkJson (c : Config) : Json :=
    match c.check with
    | .ok () => .bool true
    | .error f => faultJson f

end SubtitleQueue.Service
