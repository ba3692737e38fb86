import SubtitleQueue.Failure
import SubtitleQueue.Service.Request
import SubtitleQueue.Service.Reply

/-!
Service answers that show the failures of the queue: their texts, whether a backend failure
is worth retrying, and the kind names under which failures are reported.
-/

namespace SubtitleQueue.Service

/-- The kind name of a backend failure. -/
def backendKind : BackendError → String
  | .requestFailed _ => "RequestFailed"
  | .unreadableAnswer _ => "ParseError"
  | .refused _ _ => "ApiError"
  | .connection _ => "ConnectionError"
  | .rateLimited _ => "RateLimitExceeded"
  | .unauthorized _ => "AuthenticationError"
  | .paymentRequired _ => "PaymentRequired"
  | .quotaExceeded _ _ => "QuotaExceeded"
  | .emptyAnswer => "EmptyResponse"
  | .batchUnsupported => "BatchUnsupported"

/-- The kind name of a subtitle failure. -/
def subtitleKind : SubtitleError → String
  | .notFound _ => "NotFound"
  | .invalid _ => "Invalid"
  | .extractionFailed _ => "ExtractionFailed"

/-- The kind name of a queue failure. -/
def queueKind : QueueError → String
  | .notFound _ => "NotFound"
  | .staleExecution _ _ _ => "StaleExecution"
  | .invalidTransition _ _ _ => "InvalidTransition"
  | .invalidRequest _ => "InvalidRequest"

/-- The kind name of a job failure; a backend or subtitle failure inside keeps its own. -/
def jobKind : JobError → String
  | .backend e => "Provider." ++ backendKind e
  | .subtitle e => "Subtitle." ++ subtitleKind e
  | .cancelled => "Cancelled"
  | .batchExhausted _ _ _ => "BatchExhausted"
  | .rejected _ => "Validation"
  | .repairFailed _ _ => "RepairFailed"

/-- The kind name of a cause. -/
def causeKind : Cause → String
  | .backend e => "Provider." ++ backendKind e
  | .subtitle e => "Subtitle." ++ subtitleKind e
  | .job e => jobKind e
  | .queue e => "Queue." ++ queueKind e
  | .store _ _ => "Error"
  | .other _ => "Error"
  | .panic _ => "panic"

/-- A fault as an answer: the kind of its cause and its whole message. -/
def faultJson (f : Fault) : Json := failure (causeKind f.cause) f.message

/-- A job failure printed as itself, with the details that batch and repair failures carry. -/
def jobErrorJson (e : JobError) : Json :=
  let base := [("error", Json.str (jobKind e)), ("message", Json.str e.message)]
  match e with
  | .batchExhausted n ps done =>
    .obj (base ++ [("failed_count", .nat n), ("failed_positions", .list .nat ps),
      ("translated", itemsJson done)])
  | .repairFailed n ex =>
    .obj (base ++ [("failed_count", .nat n), ("examples", .list .str ex)])
  | _ => .obj base

/-- Reads a backend failure from its kind name and fields. -/
def backendError (j : Json) : Decode BackendError := do
  let kind ← text j "kind"
  let m ← textD j "message" ""
  match kind with
  | "RequestFailed" => pure (.requestFailed m)
  | "ParseError" => pure (.unreadableAnswer m)
  | "ApiError" =>
    let s ← natural j "status"
    if s > 65535 then throw "status out of range" else pure (.refused s m)
  | "ConnectionError" => pure (.connection m)
  | "RateLimitExceeded" => pure (.rateLimited m)
  | "AuthenticationError" => pure (.unauthorized m)
  | "PaymentRequired" => pure (.paymentRequired m)
  | "QuotaExceeded" => pure (.quotaExceeded (← natural j "used") (← natural j "limit"))
  | "EmptyResponse" => pure .emptyAnswer
  | "BatchUnsupported" => pure .batchUnsupported
  | other => throw ("unknown error kind '" ++ other ++ "'")

/-- A backend failure's text, whether it is transient, and its text inside a job failure. -/
def backendErrorReply (j : Json) : Decode Json := do
  let e ← backendError j
  pure (.obj [("message", .str e.message), ("transient", .bool e.isTransient),
    ("wrapped", .str (JobError.backend e).message)])

/-- A subtitle failure from its kind name. -/
def subtitleError (sub message : String) : Decode SubtitleError :=
  match sub with
  | "NotFound" => pure (.notFound message)
  | "Invalid" => pure (.invalid message)
  | "ExtractionFailed" => pure (.extractionFailed message)
  | other => throw ("unknown error kind '" ++ other ++ "'")

/-- A job failure's text. -/
def jobErrorReply (j : Json) : Decode Json := do
  let kind ← text j "kind"
  let e : JobError ← match kind with
    | "RepairFailed" => pure (.repairFailed (← natural j "failed_count") (← texts j "examples"))
    | "BatchExhausted" => pure (.batchExhausted (← natural j "failed_count") [] [])
    | "Validation" => pure (.rejected (← textD j "message" ""))
    | "Cancelled" => pure .cancelled
    | "Subtitle" => pure (.subtitle (← subtitleError (← text j "sub") (← textD j "message" "")))
    | other => throw ("unknown error kind '" ++ other ++ "'")
  pure (.obj [("message", .str e.message)])

/-- A queue failure's text. -/
def queueErrorReply (j : Json) : Decode Json := do
  let kind ← text j "kind"
  let e : QueueError ← match kind with
    | "NotFound" => pure (.notFound (← integer j "request_id"))
    | "StaleExecution" => pure (.staleExecution (← integer j "request_id") (← text j "status") (← text j "job_id"))
    | "InvalidTransition" => pure (.invalidTransition (← integer j "request_id") (← text j "from") (← text j "to"))
    | "InvalidRequest" => pure (.invalidRequest (← textD j "message" ""))
    | other => throw ("unknown error kind '" ++ other ++ "'")
  pure (.obj [("message", .str e.message)])

end SubtitleQueue.Service
