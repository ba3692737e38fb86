import SubtitleQueue.Cli.Parse
import SubtitleQueue.Cli.Shell
import SubtitleQueue.Store.Status
import SubtitleQueue.Config.Basic

/-!
The command line of the queue program: its commands and their arguments, and what a read
command line asks for. Every command takes the configuration file (`-c`) and the log level
(`-l`), wherever they are given on the line.
-/

namespace SubtitleQueue.Console

open Cli

/-- The name the program is called by. -/
def programName : String := "yastq"

/-- The program's version. -/
def programVersion : String := "1.0.0"

/-- The long description shown by `--help`. -/
def longDescription : String :=
  "yastq keeps a queue of subtitle translation requests and works through them.

EXAMPLES:
    yastq media add /movies/film.mkv --queue     # Register a video and queue missing languages
    yastq enqueue --subtitle film.en.srt -s en -t fr
    yastq run                                    # Process the queue until Ctrl-C
    yastq status --status failed
    yastq logs 42
    yastq settings set max_concurrent_jobs 2
    yastq completions bash > yastq.bash

CONFIGURATION:
    Configuration is stored in conf.json by default. You can specify a different
    config file with --config-path. If the config file doesn't exist, a default one
    will be created automatically. Runtime settings live in the database and are
    seeded from the config file's \"settings\" map."

/-- A request status as an argument. -/
def statusReading : Reading :=
  .checked fun v => if (RequestStatus.ofName? v).isSome then none else some ("Invalid request status: " ++ v)

/-- A media kind as an argument. -/
def mediaKindReading : Reading :=
  .checked fun v => if (MediaKind.ofName? v).isSome then none else some ("Invalid media type: " ++ v)

/-- A request id. -/
def requestIdArg : Arg :=
  { id := "request_id", valueName := "REQUEST_ID", reading := .whole true, required := true }

/-- The kind of a media item, a film unless said otherwise. -/
def mediaKindArg (help : Option String) : Arg :=
  { id := "media_type", long := some "media-type", valueName := "MEDIA_TYPE",
    reading := mediaKindReading, default := some "movie", help }

/-- A media item id. -/
def mediaIdArg : Arg :=
  { id := "media_id", valueName := "MEDIA_ID", reading := .whole true, required := true }

/-- The `media` commands. -/
def mediaCommand : Command :=
  { name := "media", about := some "Manage media items", needsSubcommand := true,
    subcommands := [
      { name := "add", about := some "Register a video file",
        args := [
          { id := "path", valueName := "PATH", reading := .path, required := true },
          mediaKindArg none,
          { id := "title", long := some "title", valueName := "TITLE" },
          { id := "priority", long := some "priority", action := .flag,
            help := some "Translate this item before others" },
          { id := "queue", long := some "queue", action := .flag,
            help := some "Queue the configured target languages right away" }] },
      { name := "priority", about := some "Change the priority flag of a media item",
        args := [mediaIdArg, mediaKindArg none,
          { id := "enabled", valueName := "ENABLED", reading := .oneOf ["true", "false"],
            required := true }] },
      { name := "queue", about := some "Queue the configured target languages missing on disk",
        args := [mediaIdArg, mediaKindArg none] },
      { name := "list", about := some "List media items" }] }

/-- The `settings` commands. -/
def settingsCommand : Command :=
  { name := "settings", about := some "Read or change runtime settings", needsSubcommand := true,
    subcommands := [
      { name := "get", about := some "Print one setting, or all known settings",
        args := [{ id := "key", valueName := "KEY" }] },
      { name := "set", about := some "Store a setting",
        args := [{ id := "key", valueName := "KEY", required := true },
                 { id := "value", valueName := "VALUE", required := true }] }] }

/-- The language of a translation, by its code. -/
def languageArg (id name : String) (letter : Char) (side : String) : Arg :=
  { id, short := some letter, long := some name, valueName := id.toUpper, required := true,
    help := some (side ++ " language code (e.g., 'en', 'es', 'fr')") }

/-- The program's command line. -/
def grammar : Command :=
  { name := programName, about := some "Persistent subtitle translation queue",
    longAbout := some longDescription, version := some programVersion, needsSubcommand := true,
    args := [
      { id := "config_path", short := some 'c', long := some "config-path",
        valueName := "CONFIG_PATH", help := some "Configuration file path",
        default := some "conf.json", global := true },
      { id := "log_level", short := some 'l', long := some "log-level", valueName := "LOG_LEVEL",
        help := some "Set logging level", reading := .oneOf Config.LogLevel.names,
        global := true }],
    subcommands := [
      { name := "run", about := some "Process the queue until interrupted with Ctrl-C",
        args := [{ id := "retry_sweep_secs", long := some "retry-sweep-secs",
                   valueName := "RETRY_SWEEP_SECS", reading := .whole false,
                   help := some "Retry failed requests every N seconds (0 disables; overrides the config)" }] },
      { name := "enqueue", about := some "Queue a translation for a subtitle file or a media item",
        args := [
          { id := "subtitle", long := some "subtitle", valueName := "SUBTITLE", reading := .path,
            help := some "Subtitle file to translate", requiredUnless := ["media_id"] },
          { id := "media_id", long := some "media-id", valueName := "MEDIA_ID",
            reading := .whole true, help := some "Media item whose subtitle should be translated" },
          { mediaKindArg (some "Type of the media item") with requires := ["media_id"] },
          { id := "title", long := some "title", valueName := "TITLE", default := some "",
            help := some "Display title" },
          languageArg "source_language" "source-language" 's' "Source",
          languageArg "target_language" "target-language" 't' "Target"] },
      { name := "status", about := some "List requests",
        args := [{ id := "status", short := some 's', long := some "status", valueName := "STATUS",
                   reading := statusReading,
                   help := some "Only show requests with this status (pending, in_progress, completed, ...)" }] },
      { name := "logs", about := some "Show the log of a request", args := [requestIdArg] },
      { name := "retry", about := some "Queue a finished request again", args := [requestIdArg] },
      { name := "retry-failed", about := some "Queue every failed request again" },
      { name := "cancel", about := some "Cancel a pending request", args := [requestIdArg] },
      { name := "remove", about := some "Delete a finished request and its log", args := [requestIdArg] },
      mediaCommand,
      settingsCommand,
      { name := "stats", about := some "Show translation statistics" },
      { name := "completions", about := some "Generate shell completions for yastq",
        args := [{ id := "shell", valueName := "SHELL", reading := .oneOf Shell.names,
                   required := true, help := some "Shell to generate completions for" }] }] }

/-- What a `media` command asks for. -/
inductive MediaOrder where
  | add (path : String) (kind : MediaKind) (title : Option String) (priority queue : Bool)
  | priority (id : Int) (kind : MediaKind) (enabled : Bool)
  | queue (id : Int) (kind : MediaKind)
  | list
  deriving Inhabited

/-- What a `settings` command asks for. -/
inductive SettingsOrder where
  | get (key : Option String)
  | set (key value : String)
  deriving Inhabited

/-- What a translation to queue names: a subtitle file or a media item (or both), its title
and its two languages. -/
structure EnqueueOrder where
  subtitle : Option String
  mediaId : Option Int
  mediaKind : MediaKind
  title : String
  source : String
  target : String
  deriving Inhabited

/-- What a command line asks the program to do. -/
inductive Order where
  | run (sweepSecs : Option Nat)
  | enqueue (o : EnqueueOrder)
  | status (only : Option RequestStatus)
  | logs (id : Int)
  | retry (id : Int)
  | retryFailed
  | cancel (id : Int)
  | remove (id : Int)
  | media (o : MediaOrder)
  | settings (o : SettingsOrder)
  | stats
  | completions (shell : Shell)
  deriving Inhabited

/-- A read command line: the configuration file, the log level if given, and the order. -/
structure Invocation where
  configPath : String
  logLevel : Option Config.LogLevel
  order : Order
  deriving Inhabited

namespace Invocation

/-- A whole number that was checked when read. -/
def wholeOf (v : Option String) : Int :=
  match v.map (wholeValue true) with
  | some (.ok n) => n
  | _ => 0

/-- A media kind that was checked when read. -/
def kindOf (v : Option String) : MediaKind := (v.bind MediaKind.ofName?).getD .movie

/-- The `media` order. -/
def mediaOrder : String × Matches → MediaOrder
  | ("add", m) => .add ((m.value? "path").getD "") (kindOf (m.value? "media_type"))
      (m.value? "title") (m.flag "priority") (m.flag "queue")
  | ("priority", m) => .priority (wholeOf (m.value? "media_id")) (kindOf (m.value? "media_type"))
      (m.value? "enabled" == some "true")
  | ("queue", m) => .queue (wholeOf (m.value? "media_id")) (kindOf (m.value? "media_type"))
  | _ => .list

/-- The `settings` order. -/
def settingsOrder : String × Matches → SettingsOrder
  | ("set", m) => .set ((m.value? "key").getD "") ((m.value? "value").getD "")
  | (_, m) => .get (m.value? "key")

/-- The order of a subcommand with what it was given. -/
def orderOf : String × Matches → Order
  | ("run", m) => .run ((m.value? "retry_sweep_secs").map fun v => (wholeValue false v).toOption.getD 0 |>.toNat)
  | ("enqueue", m) => .enqueue
      { subtitle := m.value? "subtitle", mediaId := (m.value? "media_id").map (wholeOf ∘ some),
        mediaKind := kindOf (m.value? "media_type"), title := (m.value? "title").getD "",
        source := (m.value? "source_language").getD "", target := (m.value? "target_language").getD "" }
  | ("status", m) => .status ((m.value? "status").bind RequestStatus.ofName?)
  | ("logs", m) => .logs (wholeOf (m.value? "request_id"))
  | ("retry", m) => .retry (wholeOf (m.value? "request_id"))
  | ("retry-failed", _) => .retryFailed
  | ("cancel", m) => .cancel (wholeOf (m.value? "request_id"))
  | ("remove", m) => .remove (wholeOf (m.value? "request_id"))
  | ("media", m) => .media (match m.sub with
      | some s => mediaOrder s
      | none => .list)
  | ("settings", m) => .settings (match m.sub with
      | some s => settingsOrder s
      | none => .get none)
  | ("completions", m) => .completions (((m.value? "shell").bind Shell.ofName?).getD .bash)
  | _ => .stats

/-- What a read command line asks for. -/
def ofMatches (m : Matches) : Invocation :=
  { configPath := (m.globalValue? "config_path").getD "conf.json",
    logLevel := (m.globalValue? "log_level").bind Config.LogLevel.ofName?,
    order := match m.sub with
      | some s => orderOf s
      | none => .stats }

end Invocation

/-- Reads the program's command line. -/
def readCommandLine (words : List String) : Except Stop Invocation :=
  (grammar.parse programName words).map Invocation.ofMatches

end SubtitleQueue.Console
