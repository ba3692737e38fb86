import SubtitleQueue.Config.Basic
import SubtitleQueue.Net.Url
import SubtitleQueue.Failure
import SubtitleQueue.Text.Blank
import SubtitleQueue.Text.Number

/-!
Checking a configuration before it is used: a model server needs an endpoint that is a URL,
the idle poll may not be shorter than the active one, and a concurrency limit in the seeded
settings must be a positive whole number.
-/

namespace SubtitleQueue.Config

/-- The first problem of a configuration, if any. -/
def Config.check (c : Config) : Except Fault Unit := do
  if c.provider.kind == .ollama then
    if (Text.trim c.provider.endpoint).isEmpty then
      throw (Fault.msg "An endpoint is required for the Ollama provider")
    match Net.checkUrl c.provider.endpoint with
    | .ok () => pure ()
    | .error e => throw ((Fault.msg e.message).within ("Invalid provider endpoint: " ++ c.provider.endpoint))
  if c.scheduler.idlePollMs < c.scheduler.activePollMs then
    throw (Fault.msg ("idle_poll_interval_ms (" ++ toString c.scheduler.idlePollMs ++
      ") must not be shorter than active_poll_interval_ms (" ++ toString c.scheduler.activePollMs ++ ")"))
  match c.settings.find? (·.1 == "max_concurrent_jobs") with
  | some (_, v) =>
    match Text.parseUnsigned v with
    | some n => if n ≥ 1 then pure () else
      throw (Fault.msg ("max_concurrent_jobs must be a positive integer, got '" ++ v ++ "'"))
    | none => throw (Fault.msg ("max_concurrent_jobs must be a positive integer, got '" ++ v ++ "'"))
  | none => pure ()

end SubtitleQueue.Config
