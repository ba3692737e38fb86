import SubtitleQueue.Console.Program
import SubtitleQueue.Service.Tools
import SubtitleQueue.Service.Job
import SubtitleQueue.Time.Duration

/-!
The command-line service: the program run step by step in one folder, with a configuration
file, files and media tools set up first. A step runs the program with its words, runs SQL on
the queue's database between two runs, or reads a file back.

The runner around the program works as follows. The working folder is the temporary folder of
the line, the user's home is `home` in it, and a run is killed after five seconds. When a step
runs the queue, the runner watches the database every 10 ms until five looks in a row find no
active request (giving up after four seconds) and presses Ctrl-C 150 ms later. Each line the
program writes loses its colour codes and a leading clock, and the texts that vary from run to
run are hidden: time stamps, the scripted server's address and the HTTP client's wording. The
error stream of a queue run is sorted, since its tasks write concurrently.
-/

namespace SubtitleQueue.Service

open Console Files Store Process

/-- The working folder of the program: the line's temporary folder. -/
def programFolder : String := tempRoot

/-- How long a run of the program may last before the runner kills it, in milliseconds. -/
def runLimit : Nat := 5000

/-- Watches the database until the queue has been idle for five looks in a row, looking every
10 ms and giving up at `giveUp`, then waits 150 ms; true when the program is still running
then. A program that ends is no longer watched. At most `fuel` looks. -/
def idleWatch (giveUp : Nat) : Nat → Nat → Run Bool
  | 0, _ => pure false
  | fuel + 1, calm => do
    if (← get).poolEnd.isSome then return false
    let idle := match ← Run.stored activeCount with
      | .ok 0 => true
      | _ => false
    let calm := if idle then calm + 1 else 0
    if calm ≥ 5 || (← Proc.now) ≥ giveUp then
      Proc.sleep 150
      return (← get).poolEnd.isNone
    Proc.sleep 10
    idleWatch giveUp fuel calm

/-- Presses Ctrl-C once the queue is idle, as the runner does for a queue run. -/
def interruptWhenIdle : Run Bool := do
  let start ← Proc.now
  idleWatch (start + 4000) 1000 0

/-- A terminal colour code at the front: `ESC [`, digits and semicolons, then `m`. -/
def colourCode : Text.Pattern
  | '\x1b' :: '[' :: rest =>
    match rest.dropWhile fun c => c.isDigit || c == ';' with
    | 'm' :: after => some after
    | _ => none
  | _ => none

/-- A clock reading `HH:MM:SS.mmm ` at the front. -/
def clockReading : Text.Pattern := fun cs => do
  let cs ← Time.digitsThen 2 cs
  let cs ← Time.charThen ':' cs
  let cs ← Time.digitsThen 2 cs
  let cs ← Time.charThen ':' cs
  let cs ← Time.digitsThen 2 cs
  let cs ← Time.charThen '.' cs
  let cs ← Time.digitsThen 3 cs
  Time.charThen ' ' cs

/-- The loopback address with a port at the front. -/
def loopbackAddress : Text.Pattern := fun cs =>
  if "127.0.0.1:".toList.isPrefixOf cs then
    let rest := cs.drop 10
    match rest with
    | c :: _ => if c.isDigit then some (rest.dropWhile Char.isDigit) else none
    | [] => none
  else none

/-- A text with what varies from run to run hidden. -/
def hideVarying (s : String) : String :=
  let s := Time.hideStamps s
  hideTransport (String.ofList (Text.replaceAll loopbackAddress "$SERVER".toList s.toList))

/-- A line the program wrote, as the runner shows it. -/
def shownLine (line : String) : String :=
  let cs := Text.replaceAll colourCode [] line.toList
  let cs := (clockReading cs).getD cs
  hideVarying (String.ofList cs)

/-- The lines of a stream as the runner shows them. -/
def shownLines (s : String) : List String := (Text.lines s).map shownLine

/-- The media tools the runner installs: stand-ins as the tools service makes them, or none. -/
def installedTools (spec : Option Json) (disk : Disk) : Decode (Extraction.Tools × Disk) := do
  let spec := spec.getD (.obj [("missing", .arr [.str "ffprobe", .str "ffmpeg"])])
  let probe ← standIn ((spec.field? "probe").getD (.obj [])) "stdout"
  let convert ← standIn ((spec.field? "extract").getD (.obj [])) "content"
  let missing ← texts spec "missing"
  let mut disk := disk
  for name in ["ffprobe", "ffmpeg"] do
    if !missing.contains name then
      disk := (disk.writeMaking (underTemp ("bin/" ++ name)) "#!/bin/sh\n".toUTF8).toOption.getD disk
  let tools : Extraction.Tools :=
    { prober := if missing.contains "ffprobe" then none else some (standInProgram "ffprobe" probe false),
      converter := if missing.contains "ffmpeg" then none else some (standInProgram "ffmpeg" convert true),
      probeTimeout := 60000, extractTimeout := 120000 }
  pure (tools, disk)

/-- A text with the scripted server's address in place of `$SERVER`. -/
def withServer (s : String) : String := s.replace "$SERVER" serverUrl

/-- The database file the runner opens: the configuration's, else the default one. -/
def runnerDatabase (h : Host) (config : Option String) : String :=
  let named := config.bind fun t =>
    match Json.Reader.documentOfText .any t with
    | .ok v => (v.field? "database_path").bind Json.str?
    | .error _ => none
  match named with
  | some p => h.locate p
  | none => h.defaultDatabase

/-- An exit code as the runner shows it. -/
def endingJson : Ending → Json
  | .code n => .int n
  | .killed => .str "killed"

/-- Runs SQL on the queue's database file, as a connection of the library opens it. -/
def runSql (m : Machine) (file sql : String) : Machine × Json :=
  let o := openFile m.disk m.shelf file m.clock
  let m := { m with disk := o.disk, shelf := o.shelf }
  match o.result with
  | .error f => (m, faultJson f)
  | .ok store =>
    let (r, store) := (ExceptT.run (StoreOp.batch sql)).run store
    let (disk, shelf) := saveFile m.disk m.shelf file store
    ({ m with disk, shelf }, match r with
      | .ok () => .str "ok"
      | .error f => faultJson f)

/-- A file read back: its JSON value when it is JSON, else its text, or null when absent. -/
def readBack (m : Machine) (name : String) : Json :=
  match m.disk.read (underTemp name) with
  | .error _ => .obj [("file", .null)]
  | .ok bytes =>
    match Json.Reader.document .any bytes.toList with
    | .ok v => .obj [("json", v)]
    | .error _ => .obj [("file", .str (hideVarying (Text.decodeLossy bytes)))]

/-- One step of the runner. -/
def cliStep (h : Host) (database : String) (m : Machine) (j : Json) : Decode (Machine × Json) := do
  if let some s := j.field? "read" then
    let name ← match s.str? with
      | some n => pure n
      | none => throw "field 'read' has the wrong type"
    return (m, readBack m name)
  if let some s := j.field? "sql" then
    let sql ← match s.str? with
      | some q => pure q
      | none => throw "field 'sql' has the wrong type"
    let (m, r) := runSql m database sql
    return (m, .obj [("sql", r)])
  let words ← texts j "args"
  let serving ← flagD j "run" false
  let h := if serving then { h with interrupt := interruptWhenIdle } else h
  let (m, exit) := runProgram h m (words.map withServer)
  let err := shownLines exit.err
  let err := if serving then err.mergeSort fun a b => decide (a < b) || a == b else err
  return (m, .obj [("code", endingJson exit.ending), ("stdout", .list Json.str (shownLines exit.out)),
    ("stderr", .list Json.str err)])

/-- The program run step by step in a fresh folder. -/
def cliReply (j : Json) : Decode Json := do
  let files ← fileMap j "files"
  let config ← optional j "config" some
  let spec ← optional j "ffmpeg" some
  let steps ← listD j "steps" some
  let mut disk := freshDisk
  for (name, content) in files do
    disk := (disk.writeMaking (underTemp name) content).toOption.getD disk
  let (tools, installed) ← installedTools spec disk
  let configText := config.map fun
    | .str s => withServer s
    | other => withServer (Json.render other)
  let ready := match configText with
    | some t => (installed.writeMaking (underTemp "conf.json") t.toUTF8).toOption.getD installed
    | none => installed
  let host : Host :=
    { cwd := programFolder, dataDir := join programFolder "home/.local/share",
      tempDir := join programFolder "tmp", tools, lifetime := some runLimit }
  let database := runnerDatabase host configText
  let mut m : Machine := { disk := ready }
  let mut out : List Json := []
  for s in steps do
    let (m', r) ← cliStep host database m s
    m := m'
    out := out ++ [r]
  pure (.obj [("steps", .arr out)])

end SubtitleQueue.Service
