import SubtitleQueue.Json.Schema
import SubtitleQueue.Backend.Kind

/-!
The configuration file: where the database lives, how much to log, how the worker pool polls,
which backend translates, and the runtime settings to seed into the database. Every field has
a default, so an empty object is a whole configuration; unknown fields are ignored.
-/

namespace SubtitleQueue.Config

open Json

/-- How much the program logs. -/
inductive LogLevel where
  | error
  | warn
  | info
  | debug
  | trace
  deriving Repr, DecidableEq, Inhabited

/-- The names of the log levels, least verbose first. -/
def LogLevel.names : List String := ["error", "warn", "info", "debug", "trace"]

/-- The name of a log level. -/
def LogLevel.name : LogLevel → String
  | .error => "error"
  | .warn => "warn"
  | .info => "info"
  | .debug => "debug"
  | .trace => "trace"

/-- A log level from its name. -/
def LogLevel.ofName? : String → Option LogLevel
  | "error" => some .error
  | "warn" => some .warn
  | "info" => some .info
  | "debug" => some .debug
  | "trace" => some .trace
  | _ => none

/-- How the worker pool polls and stops. -/
structure Scheduler where
  activePollMs : Nat := 500
  idlePollMs : Nat := 5000
  shutdownSecs : Nat := 30
  retrySweepSecs : Nat := 0
  claimAttempts : Nat := 5
  deriving Repr, DecidableEq, Inhabited

/-- The prompt that tells the model what to do, with the two languages left open. -/
def defaultPrompt : String :=
  "You are a professional subtitle translator. Translate the following text from \x7bsource_language\x7d to \x7btarget_language\x7d. Preserve formatting and line breaks, and answer with the translation only."

/-- The translating backend. The temperature is kept as the JSON number of its
single-precision value, `null` when it is not finite. -/
structure Provider where
  kind : BackendKind := .ollama
  model : String := "llama3.2:3b"
  endpoint : String := "http://localhost:11434"
  timeoutSecs : Nat := 60
  retryCount : Nat := 3
  retryBackoffMs : Nat := 1000
  characterQuota : Option Nat := none
  paymentPauseSecs : Nat := 900
  systemPrompt : String := defaultPrompt
  temperature : Json := .num { mantissa := 3, exponent := -1, isFloat := true }
  deriving Repr, Inhabited

/-- The settings a new configuration seeds, in the order they are listed. -/
def defaultSettings : List (String × String) :=
  [("max_concurrent_jobs", "1"), ("max_workers", "4"), ("use_batch_translation", "true"),
   ("max_batch_size", "50"), ("use_deferred_repair", "true"), ("max_split_attempts", "3"),
   ("repair_context_radius", "3"), ("repair_max_retries", "1"),
   ("fix_overlapping_subtitles", "true"), ("target_languages", "[]")]

/-- A whole configuration. -/
structure Config where
  databasePath : Option String := none
  logLevel : LogLevel := .info
  scheduler : Scheduler := {}
  provider : Provider := {}
  settings : List (String × String) := defaultSettings
  deriving Repr, Inhabited

/-- The shape of the configuration file. -/
def shape : Shape :=
  let u64 := Shape.count "u64" (Nat.pow 2 64 - 1)
  .record "Config"
    [("database_path", .maybe .text),
     ("log_level", .choice LogLevel.names),
     ("scheduler", .record "SchedulerConfig"
        [("active_poll_interval_ms", u64), ("idle_poll_interval_ms", u64),
         ("shutdown_timeout_secs", u64), ("retry_sweep_interval_secs", u64),
         ("max_claim_attempts", .count "usize" (Nat.pow 2 64 - 1))]),
     ("provider", .record "ProviderConfig"
        [("type", .choice ["ollama", "mock"]), ("model", .text), ("endpoint", .text),
         ("timeout_secs", u64), ("retry_count", .count "u32" (Nat.pow 2 32 - 1)),
         ("retry_backoff_ms", u64), ("character_quota", .maybe u64), ("payment_pause_secs", u64),
         ("system_prompt", .text), ("temperature", .single)]),
     ("settings", .textMap)]

/-- A field read from an object, or `d` when absent. -/
def fieldOr {α : Type} (o : Json) (k : String) (f : Json → Option α) (d : α) : α :=
  ((o.field? k).bind f).getD d

/-- The scheduler settings read from their object. -/
def Scheduler.ofJson (o : Json) : Scheduler :=
  { activePollMs := fieldOr o "active_poll_interval_ms" Json.nat? 500
    idlePollMs := fieldOr o "idle_poll_interval_ms" Json.nat? 5000
    shutdownSecs := fieldOr o "shutdown_timeout_secs" Json.nat? 30
    retrySweepSecs := fieldOr o "retry_sweep_interval_secs" Json.nat? 0
    claimAttempts := fieldOr o "max_claim_attempts" Json.nat? 5 }

/-- The backend settings read from their object. -/
def Provider.ofJson (o : Json) : Provider :=
  let fields := match o with
    | .obj fs => fs
    | _ => []
  { kind := if fieldOr o "type" Json.str? "ollama" == "mock" then .mock else .ollama
    model := fieldOr o "model" Json.str? "llama3.2:3b"
    endpoint := fieldOr o "endpoint" Json.str? "http://localhost:11434"
    timeoutSecs := fieldOr o "timeout_secs" Json.nat? 60
    retryCount := fieldOr o "retry_count" Json.nat? 3
    retryBackoffMs := fieldOr o "retry_backoff_ms" Json.nat? 1000
    characterQuota := (o.field? "character_quota").bind Json.nat?
    paymentPauseSecs := fieldOr o "payment_pause_secs" Json.nat? 900
    systemPrompt := fieldOr o "system_prompt" Json.str? defaultPrompt
    temperature := match fields.find? (·.1 == "temperature") with
      | some (_, v) => v
      | none => .num { mantissa := 3, exponent := -1, isFloat := true } }

/-- A configuration from what the reader took from the file. -/
def Config.ofJson (o : Json) : Config :=
  { databasePath := (o.field? "database_path").bind Json.str?
    logLevel := ((o.field? "log_level").bind Json.str? |>.bind LogLevel.ofName?).getD .info
    scheduler := Scheduler.ofJson ((o.field? "scheduler").getD (.obj []))
    provider := Provider.ofJson ((o.field? "provider").getD (.obj []))
    settings := match o with
      | .obj fs => match fs.find? (·.1 == "settings") with
        | some (_, .obj kvs) => kvs.filterMap fun (k, v) => v.str?.map (k, ·)
        | _ => defaultSettings
      | _ => defaultSettings }

/-- Reads a configuration file. -/
def Config.read (bytes : List UInt8) : Except Problem Config :=
  (Reader.document shape bytes).map Config.ofJson

/-- The configuration as its file writes it. -/
def Config.toJson (c : Config) : Json :=
  .obj [("database_path", .opt .str c.databasePath),
        ("log_level", .str c.logLevel.name),
        ("scheduler", .obj [("active_poll_interval_ms", .nat c.scheduler.activePollMs),
          ("idle_poll_interval_ms", .nat c.scheduler.idlePollMs),
          ("shutdown_timeout_secs", .nat c.scheduler.shutdownSecs),
          ("retry_sweep_interval_secs", .nat c.scheduler.retrySweepSecs),
          ("max_claim_attempts", .nat c.scheduler.claimAttempts)]),
        ("provider", .obj [("type", .str (if c.provider.kind == .mock then "mock" else "ollama")),
          ("model", .str c.provider.model), ("endpoint", .str c.provider.endpoint),
          ("timeout_secs", .nat c.provider.timeoutSecs), ("retry_count", .nat c.provider.retryCount),
          ("retry_backoff_ms", .nat c.provider.retryBackoffMs),
          ("character_quota", .opt .nat c.provider.characterQuota),
          ("payment_pause_secs", .nat c.provider.paymentPauseSecs),
          ("system_prompt", .str c.provider.systemPrompt),
          ("temperature", c.provider.temperature)]),
        ("settings", .obj (c.settings.map fun (k, v) => (k, .str v)))]

end SubtitleQueue.Config
