import SubtitleQueue.Config.Check
import SubtitleQueue.Store.File
import SubtitleQueue.Store.Settings
import SubtitleQueue.Concurrency.Acquire
import SubtitleQueue.Backend.Stack
import SubtitleQueue.Extraction.Source
import SubtitleQueue.Json.Render
import SubtitleQueue.Queue.Act

/-!
Where the program runs and what it finds there. The host names the working folder, the user's
data folder, the temporary folder, and the media tools on the search path; the machine holds
what lasts from one run to the next: the files, the databases kept in them, and the clock.

Starting the program reads its configuration file, or writes the default one where there is
none, and then opens the queue: the database file (the configured one, else `yastq/yastq.db`
in the user's data folder), the settings seeded from the configuration, and the concurrency
limit read back from the settings.
-/

namespace SubtitleQueue.Console

open Files Store Config

/-- Where the program runs: the working folder, whose own spelling is a complete path, the
user's data folder, the temporary folder, the media tools it can find, what stops a running
queue from outside (true when it was stopped; it may wait forever), and how many milliseconds
a run may last before it is killed. -/
structure Host where
  cwd : String
  dataDir : String
  tempDir : String
  tools : Extraction.Tools
  interrupt : Run Bool := Process.Proc.waitUntil none fun _ => false
  lifetime : Option Nat := none

/-- What lasts from one run of the program to the next. -/
structure Machine where
  disk : Disk
  shelf : Shelf := {}
  clock : Nat := 0

namespace Host

/-- A path as the program opens it: a relative one is taken from the working folder. -/
def locate (h : Host) (p : String) : String :=
  if isAbsolute p || p == h.cwd || p.startsWith (h.cwd ++ "/") then p else join h.cwd p

/-- The canonical path of an existing file or folder, the path located first. -/
def canonical (h : Host) (d : Disk) (p : String) : Except IoError String :=
  if p.isEmpty then .error .notFound else d.canonical (h.locate p)

/-- The database file used when the configuration names none. -/
def defaultDatabase (h : Host) : String := join h.dataDir "yastq/yastq.db"

end Host

/-- The configuration file at `path`, or the default configuration, written there when no file
exists; the warning about a missing file comes first. A file that cannot be read or parsed,
or a default that cannot be written, is a failure naming the path as given. The empty path
names no file, and nothing can be written there. -/
def loadConfig (h : Host) (d : Disk) (path : String) : Disk × List Log.LogLine × Except Fault Config :=
  let file := h.locate path
  if !path.isEmpty && d.pathExists file then
    match d.read file with
    | .error e => (d, [], .error ((Fault.msg e.message).within ("Failed to parse config file: " ++ path)))
    | .ok bytes =>
      match Config.read bytes.toList with
      | .ok c => (d, [], .ok c)
      | .error p => (d, [], .error ((Fault.msg p.text).within ("Failed to parse config file: " ++ path)))
  else
    let warning : Log.LogLine :=
      ⟨.warn, "Config file not found at '" ++ path ++ "', creating default config."⟩
    let c : Config := {}
    let written := if path.isEmpty then .error .notFound else d.write file (Json.pretty "" c.toJson).toUTF8
    match written with
    | .ok d => (d, [warning], .ok c)
    | .error e =>
      (d, [warning], .error ((Fault.msg e.message).within ("Failed to write default config to file: " ++ path)))

/-- The backend a configuration asks for: the scripted one or a generation server, retried as
configured, behind the meter. -/
def backendOf (p : Provider) : Backend.Stack :=
  { base := match p.kind with
      | .mock => .mock {}
      | .ollama => .remote p.endpoint,
    retry := some { maxRetries := p.retryCount, backoffMs := p.retryBackoffMs },
    metered := true }

/-- The meter a configuration asks for: its quota, and its pause after a payment failure. -/
def meterOf (p : Provider) : Backend.Meter :=
  { limit := p.characterQuota, pauseMs := p.paymentPauseSecs * 1000 }

/-- The database file of a configuration: where it is, and how messages name it. -/
def databaseOf (h : Host) (c : Config) : String × String :=
  match c.databasePath with
  | some p => (h.locate p, p)
  | none => (h.defaultDatabase, h.defaultDatabase)

/-- Seeds the settings the configuration gives (those already set are kept) and sets the
concurrency limit from the settings. -/
def prepareQueue (c : Config) : Act Unit := do
  let seeded ← Act.store (seedSettings c.settings)
  if seeded > 0 then
    Act.note .info ("Seeded " ++ toString seeded ++ " setting(s) from the config file")
  let raw ← Act.store (getSetting "max_concurrent_jobs")
  let _ ← ExceptT.lift (Concurrency.refreshLimit raw)

end SubtitleQueue.Console
