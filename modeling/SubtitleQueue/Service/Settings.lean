import SubtitleQueue.Settings.Basic
import SubtitleQueue.Store.Status
import SubtitleQueue.Backend.Kind
import SubtitleQueue.Service.Request
import SubtitleQueue.Service.Reply

/-!
Service answers about settings values and the names of states and kinds.
-/

namespace SubtitleQueue.Service

open Settings

/-- The text values of an object field, as a lookup. -/
def textMap (j : Json) (key : String) : Decode (List (String × String)) :=
  match j.field? key with
  | none => pure []
  | some (.obj fs) => fs.mapM fun (k, v) =>
      match v with
      | .str s => pure (k, s)
      | _ => throw ("field '" ++ key ++ "' has the wrong type")
  | some _ => throw ("field '" ++ key ++ "' has the wrong type")

/-- The limits of the quality gate as JSON. -/
def gateJson (g : GateLimits) : Json :=
  .obj [("max_file_size_bytes", .nat g.maxFileSize), ("max_line_length", .nat g.maxLineLength),
    ("min_duration_ms", .nat g.minDuration), ("max_duration_ms", .nat g.maxDuration)]

/-- A job's settings as JSON. -/
def jobSettingsJson (s : JobSettings) : Json :=
  .obj [("use_batch_translation", .bool s.useBatches), ("max_batch_size", .nat s.maxBatchSize),
    ("context_lines_before", .nat s.contextBefore), ("context_lines_after", .nat s.contextAfter),
    ("batch_context_enabled", .bool s.batchContext),
    ("batch_context_before", .nat s.batchContextBefore),
    ("batch_context_after", .nat s.batchContextAfter),
    ("strip_formatting", .bool s.stripFormatting), ("remove_markup", .bool s.removeMarkup),
    ("max_line_length", .nat s.maxLineLength), ("fix_overlaps", .bool s.fixOverlaps),
    ("use_deferred_repair", .bool s.deferredRepair), ("max_split_attempts", .nat s.maxSplits),
    ("repair_context_radius", .nat s.repairRadius), ("repair_max_retries", .nat s.repairRetries),
    ("max_extraction_retries", .nat s.extractionRetries),
    ("validation", .opt gateJson s.gate)]

/-- A job's settings resolved from raw values. -/
def jobSettingsReply (j : Json) : Decode Json := do
  let values ← textMap j "values"
  pure (jobSettingsJson (JobSettings.ofLookup fun k => (values.find? (·.1 == k)).map (·.2)))

/-- A flag read from text. -/
def flagReply (j : Json) : Decode Json := do
  let v ← optional j "value" Json.str?
  let d ← flagD j "default" false
  pure (valueReply (.bool (parseFlag v d)))

/-- A count read from text. -/
def countReply (j : Json) : Decode Json := do
  let v ← optional j "value" Json.str?
  let d ← naturalD j "default" 0
  pure (valueReply (.nat (parseCount v d)))

/-- A state or kind read from its name. -/
def nameReply (j : Json) : Decode Json := do
  let ty ← text j "type"
  let v ← text j "value"
  let found : Option String × String ← match ty with
    | "request_status" => pure ((RequestStatus.ofName? v).map (fun s =>
        s.name ++ "|terminal=" ++ toString s.isTerminal ++ "|active=" ++
          (if s.isTerminal then "None" else "Some(true)")), "Invalid request status: ")
    | "media_type" => pure ((MediaKind.ofName? v).map MediaKind.name, "Invalid media type: ")
    | "media_state" => pure ((MediaState.ofName? v).map MediaState.name, "Invalid media state: ")
    | "backend_kind" => pure ((BackendKind.ofName? v).map BackendKind.name, "Invalid provider type: ")
    | other => throw ("unknown type '" ++ other ++ "'")
  pure <| match found with
    | (some n, _) => valueReply (.str n)
    | (none, lead) => plainFailure (lead ++ v)

end SubtitleQueue.Service
