import SubtitleQueue.Console.Orders
import SubtitleQueue.Queue.Pool
import SubtitleQueue.Job.Execute

/-!
Running the queue from the command line: the worker pool works until it is interrupted from
outside, then drains and reports. While it runs, every change of a request's status is logged,
and a retry sweep, when one is configured, queues the failed requests again at a fixed period
from the start.
-/

namespace SubtitleQueue.Console

open Queue Process

/-- How many rounds the pool may take in one run. -/
def servingRounds : Nat := 1000000

/-- How many retry sweeps one run may make. -/
def sweepLimit : Nat := 100000

/-- The pool's timing from the scheduler's configuration. -/
def poolOptionsOf (s : Config.Scheduler) : PoolOptions :=
  { activePoll := s.activePollMs, idlePoll := s.idlePollMs, shutdownTimeout := s.shutdownSecs * 1000,
    claimAttempts := s.claimAttempts }

/-- What a job uses on this host under a configuration. -/
def servicesOf (h : Host) (c : Config.Config) : Job.Services :=
  { backend := backendOf c.provider, extractor := .tools h.tools, dataDir := some h.dataDir,
    tempDir := h.tempDir }

/-- Runs each claimed request as a translation job. -/
def jobExecutor (svc : Job.Services) : Executor := fun request job =>
  ExceptT.adapt Escape.ofFault (Job.execute svc request job)

/-- The retry sweep from the sweep due at `next`: every `period` milliseconds until token `stop`
is set, the failed requests are queued again; a sweep that fails is logged. At most `fuel`
sweeps. -/
def sweep (stop period : Nat) : Nat → Nat → Run Unit
  | 0, _ => pure ()
  | fuel + 1, next => do
    let _ ← Proc.waitUntil (some next) fun w => w.tokens.isCancelled stop
    if ← Run.isCancelled stop then return
    match ← retryFailed.run with
    | .ok _ => pure ()
    | .error e => Run.note .error ("Retry sweep failed: " ++ e.message)
    sweep stop period fuel (next + period)

/-- The line logged for a change of status. -/
def statusLine : Event → Option Log.LogLine
  | .status id s => some ⟨.info, "Request " ++ toString id ++ " is now " ++ s.name⟩
  | .progress _ _ => none

/-- Runs the queue until it is interrupted; `sweepSecs` overrides the configured sweep period,
and a period of zero sweeps never. -/
def serve (h : Host) (c : Config.Config) (sweepSecs : Option Nat) : Work Unit := do
  let stop ← Work.act (ExceptT.lift Run.newToken)
  let period := sweepSecs.getD c.scheduler.retrySweepSecs * 1000
  let start ← Work.act (ExceptT.lift Proc.now)
  if period > 0 then
    let _ ← Work.act (ExceptT.lift (Proc.spawnTask fun _ => sweep stop period sweepLimit (start + period)))
  let _ ← Work.act (ExceptT.lift (Proc.spawnTask fun _ => do
    if ← h.interrupt then
      Run.note .info "Stopping; waiting for running translations"
      Run.cancelToken stop))
  Work.note .info "Processing the translation queue (Ctrl-C to stop)"
  let heardBefore := (← getThe World).events.size
  let ended ← Work.act (ExceptT.lift (runPool (jobExecutor (servicesOf h c)) (poolOptionsOf c.scheduler)
    stop servingRounds))
  modifyThe World fun w => { w with poolEnd := some ended }
  let heard := (← getThe World).events.toList.drop heardBefore
  Work.act (ExceptT.lift (Run.log (heard.filterMap statusLine)))
  Work.act (ExceptT.lift (Run.cancelToken stop))
  match ended with
  | .error f => throw f
  | .ok r =>
    Work.note .info ("Queue stopped: " ++ toString r.completed ++ " completed, " ++ toString r.failed ++
      " failed, " ++ toString r.cancelled ++ " cancelled, " ++ toString r.abandoned ++ " requeued")

end SubtitleQueue.Console
