import SubtitleQueue.Job.Translate
import SubtitleQueue.Queue.MediaState
import SubtitleQueue.Store.Journal

/-!
A job from start to final status. The job registers the request's cancellation token, then
confirms with the store that it may run the request: a request already finished is stale and
a request that is gone is not found, and both are skipped. After the work, the job decides the
final status (a rejected subtitle or a cancellation cancels, any other failure fails),
records it unless the request finished meanwhile, reports it, stores the job's log with the
request, and updates the media item's digest and state.

This is the only place that chooses between completed, failed and cancelled.
-/

namespace SubtitleQueue.Job

open Store Act

/-- The final status of a failed run. -/
def classify (e : Fault) (cancel : Nat) (log : Capture) : Act RequestStatus := do
  match e.cause with
  | .job (.rejected r) =>
    say log .warn ("Subtitle rejected by validation: " ++ r)
    return .cancelled
  | .job .cancelled =>
    say log .info "Translation cancelled"
    return .cancelled
  | _ =>
    if ← ExceptT.lift (Run.isCancelled cancel) then
      say log .info ("Translation cancelled (" ++ e.headline ++ ")")
      return .cancelled
    say log .error ("Translation failed: " ++ e.message)
    return .failed

/-- Records the final status, stores the log and updates the media item. -/
def finalize (request : Request) (status : RequestStatus) (digest : Option String) (log : Capture) :
    Act Outcome := do
  let recorded ← match ← attempt (store (finishRequest request.id status)) with
    | .ok r => pure r
    | .error e =>
      match e.cause with
      | .queue (.notFound _) =>
        note .info ("Request " ++ toString request.id ++ " was deleted while running, dropping its result")
        return .skipped
      | _ => throw e
  if !recorded then
    say log .warn ("Request had already finished; " ++ status.name ++ " was not recorded")
  ExceptT.lift (Progress.emitStatus request.id status)
  let lines ← ExceptT.lift log.drain
  let entries : List Entry := lines.map fun l => { level := l.level.name, message := l.message }
  if let .error e ← attempt (store (appendEntries request.id entries)) then
    note .warn ("Failed to store the log of request " ++ toString request.id ++ ": " ++ e.message)
  if let some (mid, kind) := request.media? then
    let update : Option (StoreOp Unit) := match status, digest with
      | .cancelled, _ => some (setDigest mid kind none)
      | .completed, some h => some (setDigest mid kind (some h))
      | _, _ => none
    if let some u := update then
      if let .error e ← attempt (store u) then
        note .warn ("Failed to update the content hash of " ++ kind.name ++ " " ++ toString mid ++ ": " ++
          e.message)
    if let .error e ← attempt (Queue.updateState mid kind) then
      note .warn ("Failed to update the state of " ++ kind.name ++ " " ++ toString mid ++ ": " ++ e.message)
  return match recorded, status with
    | false, _ => .skipped
    | true, .completed => .completed
    | true, .failed => .failed
    | true, _ => .cancelled

/-- Runs a request under its registered token. -/
def runRegistered (svc : Services) (claimed : Request) (jobId : String) (cancel : Nat) (log : Capture) :
    Act Outcome := do
  let request ← match ← attempt (store (beginExecution claimed.id jobId)) with
    | .ok r => pure r
    | .error e =>
      match e.cause with
      | .queue (.staleExecution _ _ _) =>
        ExceptT.lift (Run.cancelToken cancel)
        note .warn e.message
        return .skipped
      | .queue (.notFound _) =>
        note .info ("Request " ++ toString claimed.id ++ " was deleted before it started")
        return .skipped
      | _ => throw e
  say log .info ("Translating '" ++ request.title ++ "' from " ++ request.source ++ " to " ++ request.target)
  let media ← currentMedia request
  if request.media?.isSome && media.isNone then
    say log .warn "The media item no longer exists"
    return ← finalize request .cancelled none log
  let (status, digest) ← match ← attempt (translate svc request media cancel log) with
    | .ok (path, digest) =>
      say log .info ("Translation completed: " ++ path)
      pure (RequestStatus.completed, some digest)
    | .error e =>
      -- a panic unwinds past the job's own handling of failures
      if e.isPanic then throw e
      pure (← classify e cancel log, none)
  finalize request status digest log

/-- Runs a claimed request as job `jobId`. -/
def execute (svc : Services) (claimed : Request) (jobId : String) : Act Outcome := do
  let log ← ExceptT.lift (Run.newCapture (some claimed.id))
  let token ← ExceptT.lift Run.newToken
  let generation ← modifyGet fun w =>
    let (g, r) := w.registry.register claimed.id token
    (g, { w with registry := r })
  ExceptT.lift (Run.hold (.registration claimed.id generation))
  let result ← attempt (runRegistered svc claimed jobId token log)
  ExceptT.lift (Run.unhold (.registration claimed.id generation))
  modify fun w => { w with registry := w.registry.release claimed.id generation }
  match result with
  | .ok o => pure o
  | .error e => throw e

end SubtitleQueue.Job
