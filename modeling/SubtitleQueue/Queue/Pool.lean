import SubtitleQueue.Queue.Act
import SubtitleQueue.Store.Journal
import SubtitleQueue.Settings.Basic

/-!
The worker pool: one loop that claims pending requests (priority first, then oldest) and runs
each as a task of its own, at most `max_workers` at a time, a setting read again every round.
Between rounds the loop waits for shutdown, new work, or an execution to end, and otherwise
for a poll interval: a short one while work runs, a longer one while idle.

Requests left in progress by an earlier run are put back to pending when the pool starts. An
execution that escapes with a failure or a panic instead of recording a result has its
request marked failed, with a log line saying why. On shutdown the pool stops claiming, waits
a while for the running executions, stops the rest and hands their requests back to the
queue.
-/

namespace SubtitleQueue.Queue

open Store Process Job

/-- The pool's timing, in milliseconds, and how many times a claim selects again when another
worker took its candidate. -/
structure PoolOptions where
  activePoll : Nat
  idlePoll : Nat
  shutdownTimeout : Nat
  claimAttempts : Nat
  deriving Repr, Inhabited

/-- How an execution can end without an outcome: with a failure, or by panicking with a
message (none when what it panicked with was not text). -/
inductive Escape where
  | failure (f : Fault)
  | panic (message : Option String)
  deriving Inhabited

/-- The failure an escape counts as. -/
def Escape.fault : Escape → Fault
  | .failure f => f
  | .panic m => Fault.msg ("Execution panicked: " ++ m.getD "unknown panic")

/-- A failure that escaped a job: a panic stays a panic. -/
def Escape.ofFault (f : Fault) : Escape :=
  match f.cause with
  | .panic m => .panic (some m)
  | _ => .failure f

/-- Runs one claimed request, under a job id, to a final state. Escaping means that it could
not record a result itself. -/
abbrev Executor := Request → String → ExceptT Escape Run Outcome

/-- The number of workers when the setting cannot be read or is not a count. -/
def defaultWorkers : Nat := 4

/-- The pool during a run: the executions not yet collected (task and request), the requests
in flight, the counts so far, and how many job ids have been given out. -/
structure Crew where
  running : List (Nat × Int) := []
  inFlight : List Int := []
  report : PoolReport := {}
  issued : Nat := 0
  deriving Inhabited

/-- The job id of the `n`th claim, shaped as a random id. -/
def jobId (n : Nat) : String := "00000000-0000-4000-8000-" ++ Time.padded 12 n

/-- How many executions may run at once: the setting, and at least one. A setting that cannot
be read is logged and the default is used. -/
def maxWorkers : Run Nat := do
  let source := (← get).settings
  match ← Run.stored (source.get "max_workers") with
  | .ok v => return max (Settings.parseCount v defaultWorkers) 1
  | .error e =>
    Run.note .warn ("Failed to read max_workers: " ++ e.headline)
    return defaultWorkers

/-- The earliest ended execution the pool has not collected: its task, request and result. -/
def firstExit (w : World) (crew : Crew) : Option (Nat × Int × Except Fault Outcome) :=
  w.finished.findSome? fun (task, r) =>
    (crew.running.find? (·.1 == task)).map fun (_, id) => (task, id, r)

/-- Marks a request failed after its execution escaped, with a log line saying why. A request
that is gone is left alone. -/
def forceFailed (id : Int) (cause : Fault) : Run Unit := do
  match ← Run.stored (finishRequest id .failed) with
  | .ok _ =>
    let entry : Entry :=
      { level := "error", message := "Execution failed before a result was recorded: " ++ cause.headline,
        details := some cause.message }
    if let .error e ← Run.stored (appendEntries id [entry]) then
      Run.note .error ("Failed to write failure log for request " ++ toString id ++ ": " ++ e.message)
  | .error e =>
    match e.cause with
    | .queue (.notFound _) => pure ()
    | _ => Run.note .error ("Failed to mark request " ++ toString id ++ " as failed: " ++ e.message)

/-- Collects an ended execution: counts its outcome, or logs its escape and marks its request
failed. -/
def collect (crew : Crew) (task : Nat) (id : Int) (result : Except Fault Outcome) : Run Crew := do
  let crew := { crew with running := crew.running.filter (·.1 != task),
                          inFlight := crew.inFlight.erase id }
  match result with
  | .ok o => return { crew with report := crew.report.record o }
  | .error e =>
    Run.note .error ("Request " ++ toString id ++ " execution failed: " ++ e.message)
    forceFailed id e
    return { crew with report := crew.report.record .failed }

/-- Collects every execution that has ended, at most `n`. -/
def collectEnded : Nat → Crew → Run Crew
  | 0, crew => pure crew
  | n + 1, crew => do
    match firstExit (← get) crew with
    | some (task, id, r) => collectEnded n (← collect crew task id r)
    | none => pure crew

/-- Starts the execution of a claimed request as a task of its own. Its result, a panic
counted as a failure, is left in the world for the pool to collect. -/
def spawnExecution (exec : Executor) (request : Request) (job : String) : Run Nat :=
  Proc.spawnTask fun me => do
    let r ← ExceptT.run (exec request job)
    modify fun w => { w with finished := w.finished ++ [(me, r.mapError Escape.fault)] }

/-- Claims and starts requests while fewer than `limit` are in flight, shutdown has not been
asked for and a claim finds work, at most `fuel` times. A failed claim is logged and ends the
filling. -/
def fill (exec : Executor) (opts : PoolOptions) (stop limit : Nat) : Nat → Crew → Run Crew
  | 0, crew => pure crew
  | fuel + 1, crew => do
    if crew.inFlight.length ≥ limit then return crew
    if ← Run.isCancelled stop then return crew
    let job := jobId crew.issued
    let crew := { crew with issued := crew.issued + 1 }
    match ← Run.stored (claimNext job opts.claimAttempts) with
    | .ok (some request) =>
      let task ← spawnExecution exec request job
      let inFlight := if crew.inFlight.contains request.id then crew.inFlight
        else crew.inFlight ++ [request.id]
      fill exec opts stop limit fuel { crew with running := crew.running ++ [(task, request.id)], inFlight }
    | .ok none => return crew
    | .error e =>
      Run.note .error ("Failed to claim the next request: " ++ e.message)
      return crew

/-- Whether the pool has something to react to: shutdown, new work, or an ended execution. -/
def stirred (stop : Nat) (crew : Crew) (w : World) : Bool :=
  w.tokens.isCancelled stop || w.woken || (firstExit w crew).isSome

/-- The pool's rounds until shutdown, at most `fuel` of them: collect what ended, fill the free
places, then wait. A wait ended by new work uses up the signal. -/
def rounds (exec : Executor) (opts : PoolOptions) (stop : Nat) : Nat → Crew → Run Crew
  | 0, crew => pure crew
  | fuel + 1, crew => do
    if ← Run.isCancelled stop then return crew
    let crew ← collectEnded crew.running.length crew
    let limit ← maxWorkers
    let crew ← fill exec opts stop limit limit crew
    let pause := if crew.inFlight.isEmpty then opts.idlePoll else opts.activePoll
    let t ← Proc.now
    let _ ← Proc.waitUntil (some (t + pause)) (stirred stop crew)
    let w ← get
    if w.tokens.isCancelled stop then return crew
    if w.woken then
      set { w with woken := false }
      rounds exec opts stop fuel crew
    else match firstExit w crew with
      | some (task, id, r) => rounds exec opts stop fuel (← collect crew task id r)
      | none => rounds exec opts stop fuel crew

/-- Collects executions as they end until the deadline, at most `n`. An execution that has
already ended is collected even when the deadline has passed. -/
def awaitExits (deadline : Nat) : Nat → Crew → Run Crew
  | 0, crew => pure crew
  | n + 1, crew => do
    match firstExit (← get) crew with
    | some (task, id, r) => awaitExits deadline n (← collect crew task id r)
    | none =>
      if (← Proc.now) ≥ deadline then return crew
      let _ ← Proc.waitUntil (some deadline) fun w => (firstExit w crew).isSome
      match firstExit (← get) crew with
      | some (task, id, r) => awaitExits deadline n (← collect crew task id r)
      | none => return crew

/-- Hands requests still in flight back to the queue, in order of id; counts those that were
still in progress. -/
def handBack (report : PoolReport) : List Int → Run PoolReport
  | [] => pure report
  | id :: rest => do
    match ← Run.stored (resetToPending id) with
    | .ok true =>
      Run.note .warn ("Request " ++ toString id ++ " did not finish before shutdown, returned to the queue")
      handBack { report with abandoned := report.abandoned + 1 } rest
    | .ok false => handBack report rest
    | .error e =>
      Run.note .error ("Failed to re-queue request " ++ toString id ++ ": " ++ e.message)
      handBack report rest

/-- Waits up to the shutdown timeout for the running executions, stops the rest and hands
their requests back. -/
def drain (opts : PoolOptions) (crew : Crew) : Run Crew := do
  if crew.running.isEmpty then return crew
  Run.note .info ("Waiting up to " ++ Time.millisText opts.shutdownTimeout ++ " for " ++
    toString crew.running.length ++ " running job(s)")
  let deadline := (← Proc.now) + opts.shutdownTimeout
  let crew ← awaitExits deadline crew.running.length crew
  for (task, _) in crew.running do
    Proc.abortTask task
  let report ← handBack crew.report (crew.inFlight.mergeSort fun a b => decide (a ≤ b))
  return { crew with running := [], inFlight := [], report }

/-- Runs the pool until token `stop` is set, for at most `fuel` rounds, then drains it. Fails
only when the requests left in progress cannot be put back at the start. -/
def runPool (exec : Executor) (opts : PoolOptions) (stop fuel : Nat) : Run (Except Fault PoolReport) := do
  match ← Run.stored resetInProgress with
  | .error e => return .error e
  | .ok recovered =>
    Run.note .info "Worker pool started"
    let crew ← rounds exec opts stop fuel { report := { recovered } }
    let crew ← drain opts crew
    Run.note .info crew.report.summary
    return .ok crew.report

end SubtitleQueue.Queue
