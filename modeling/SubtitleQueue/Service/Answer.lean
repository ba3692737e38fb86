import SubtitleQueue.Service.Words
import SubtitleQueue.Service.Subtitles
import SubtitleQueue.Service.Batches
import SubtitleQueue.Service.Errors
import SubtitleQueue.Service.Settings
import SubtitleQueue.Service.Media
import SubtitleQueue.Service.Backends
import SubtitleQueue.Service.Limits
import SubtitleQueue.Service.Configs
import SubtitleQueue.Service.Queue
import SubtitleQueue.Service.Reporter
import SubtitleQueue.Service.Database
import SubtitleQueue.Service.Job
import SubtitleQueue.Service.Pool
import SubtitleQueue.Service.Tools
import SubtitleQueue.Service.Cli

/-!
The service: one JSON request in, one JSON answer out. The request's `op` names the
operation; a malformed request is answered with `bad_input`.
-/

namespace SubtitleQueue.Service

/-- The handler of each operation. -/
def handlers : List (String × (Json → Decode Json)) :=
  [("lang", languageReply), ("lang_match", languageMatchReply),
   ("meaningful", meaningfulReply), ("remove_markup", removeMarkupReply),
   ("strip_formatting", stripFormattingReply), ("rewrap", rewrapReply),
   ("position_tags", repairedLineReply Text.keepPositionTag),
   ("line_breaks", repairedLineReply Text.keepLineBreaks),
   ("parse_srt", parseSrtReply), ("render_srt", renderSrtReply),
   ("format_timestamp", timestampReply), ("new_entry", newCueReply),
   ("fix_overlaps", fixOverlapsReply),
   ("merge_ranges", mergeRangesReply), ("repair_batch", repairPlanReply),
   ("split_chunks", splitReply), ("encode_batch", encodeReply), ("decode_batch", decodeReply),
   ("provider_error", backendErrorReply), ("translation_error", jobErrorReply),
   ("queue_error", queueErrorReply), ("settings", jobSettingsReply),
   ("parse_bool", flagReply), ("parse_usize", countReply), ("parse_enum", nameReply),
   ("validate", validateReply), ("discover", discoverReply), ("output_paths", outputPathsReply),
   ("content_hash", contentHashReply), ("effective_priority", priorityReply),
   ("progress_tracker", trackerReply), ("select_track", selectTrackReply),
   ("translate", translateReply), ("repair", repairReply), ("backend", backendReply),
   ("meter", meterReply), ("registry", registryReply), ("limiter", limiterReply),
   ("config", configReply), ("queue", queueReply), ("reporter", reporterReply), ("db", dbReply), ("job", jobReply), ("pool", poolReply), ("ffmpeg", toolsReply),
   ("cli", cliReply)]

/-- Answers one request. -/
def answer (j : Json) : Json :=
  match j.field? "op" with
  | some (.str op) =>
    match handlers.find? (·.1 == op) with
    | some (_, h) =>
      match h j with
      | .ok r => r
      | .error e => badInput e
    | none => badInput ("unknown op '" ++ op ++ "'")
  | _ => badInput "missing field 'op'"

end SubtitleQueue.Service
