import SubtitleQueue.Text.Blank
import SubtitleQueue.Text.Case
import SubtitleQueue.Text.Number

/-!
Runtime settings: text values under fixed keys, read leniently. A flag is `true`, `1` or
`yes` in any case, or `false`, `0` or `no`; a count is an unsigned decimal; blanks around
either are ignored, and anything else falls back to the default. The settings of one job are
resolved once from these values.
-/

namespace SubtitleQueue.Settings

/-- The keys of the runtime settings, in display order. -/
def allKeys : List String :=
  ["max_concurrent_jobs", "max_workers", "use_batch_translation", "max_batch_size",
   "context_lines_before", "context_lines_after", "batch_context_enabled",
   "batch_context_before", "batch_context_after", "strip_subtitle_formatting", "remove_markup",
   "max_line_length", "fix_overlapping_subtitles", "use_deferred_repair", "max_split_attempts",
   "repair_context_radius", "repair_max_retries", "max_extraction_retries",
   "subtitle_validation_enabled", "validation_max_file_size_bytes", "validation_max_line_length",
   "validation_min_duration_ms", "validation_max_duration_ms", "target_languages",
   "source_languages"]

/-- The keys a job reads. -/
def jobKeys : List String :=
  ["use_batch_translation", "max_batch_size", "context_lines_before", "context_lines_after",
   "batch_context_enabled", "batch_context_before", "batch_context_after",
   "strip_subtitle_formatting", "remove_markup", "max_line_length", "fix_overlapping_subtitles",
   "use_deferred_repair", "max_split_attempts", "repair_context_radius", "repair_max_retries",
   "max_extraction_retries", "subtitle_validation_enabled", "validation_max_file_size_bytes",
   "validation_max_line_length", "validation_min_duration_ms", "validation_max_duration_ms"]

/-- A flag's value, or `d` when the text is absent or not a flag. -/
def parseFlag (value : Option String) (d : Bool) : Bool :=
  match value.map (fun v => Text.lower (Text.trim v)) with
  | some "true" | some "1" | some "yes" => true
  | some "false" | some "0" | some "no" => false
  | _ => d

/-- A count's value, or `d` when the text is absent or not a count. -/
def parseCount (value : Option String) (d : Nat) : Nat :=
  match value.bind (fun v => Text.parseUnsigned (Text.trim v)) with
  | some n => n
  | none => d

/-- Limits of the subtitle quality gate. -/
structure GateLimits where
  maxFileSize : Nat := 2097152
  maxLineLength : Nat := 500
  minDuration : Nat := 500
  maxDuration : Nat := 10000
  deriving Repr, DecidableEq, Inhabited

/-- What one job does, resolved from the settings when it starts. -/
structure JobSettings where
  useBatches : Bool
  maxBatchSize : Nat
  contextBefore : Nat
  contextAfter : Nat
  batchContext : Bool
  batchContextBefore : Nat
  batchContextAfter : Nat
  stripFormatting : Bool
  removeMarkup : Bool
  maxLineLength : Nat
  fixOverlaps : Bool
  deferredRepair : Bool
  maxSplits : Nat
  repairRadius : Nat
  repairRetries : Nat
  extractionRetries : Nat
  gate : Option GateLimits
  deriving Repr, DecidableEq, Inhabited

/-- Resolves a job's settings from a lookup of raw values. Batch size and split attempts are
at least one; the quality gate is off unless enabled. -/
def JobSettings.ofLookup (get : String → Option String) : JobSettings :=
  let flag (k : String) (d : Bool) := parseFlag (get k) d
  let count (k : String) (d : Nat) := parseCount (get k) d
  { useBatches := flag "use_batch_translation" false
    maxBatchSize := max (count "max_batch_size" 50) 1
    contextBefore := count "context_lines_before" 0
    contextAfter := count "context_lines_after" 0
    batchContext := flag "batch_context_enabled" false
    batchContextBefore := count "batch_context_before" 3
    batchContextAfter := count "batch_context_after" 3
    stripFormatting := flag "strip_subtitle_formatting" false
    removeMarkup := flag "remove_markup" false
    maxLineLength := count "max_line_length" 0
    fixOverlaps := flag "fix_overlapping_subtitles" false
    deferredRepair := flag "use_deferred_repair" false
    maxSplits := max (count "max_split_attempts" 3) 1
    repairRadius := count "repair_context_radius" 3
    repairRetries := count "repair_max_retries" 1
    extractionRetries := count "max_extraction_retries" 2
    gate := if flag "subtitle_validation_enabled" false then
      some { maxFileSize := count "validation_max_file_size_bytes" 2097152
             maxLineLength := count "validation_max_line_length" 500
             minDuration := count "validation_min_duration_ms" 500
             maxDuration := count "validation_max_duration_ms" 10000 }
      else none }

end SubtitleQueue.Settings
