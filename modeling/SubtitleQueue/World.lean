import SubtitleQueue.Process.Task
import SubtitleQueue.Cancel.Registry
import SubtitleQueue.Concurrency.Limiter
import SubtitleQueue.Backend.Meter
import SubtitleQueue.Backend.Mock
import SubtitleQueue.Settings.Source
import SubtitleQueue.Files.Disk
import SubtitleQueue.Queue.Report

/-!
Everything the queue's tasks share while they run: the clock, the library's log, the files,
the store and the settings, the cancellation tokens and registry, the concurrency limiter, the
backend's meter and tally, the progress events, and the log captures of running jobs. A task
that is stopped from outside lets go of what it held: a place in the limiter's queue, a slot,
a registration, a private folder.
-/

namespace SubtitleQueue

open Log Process

/-- Something a task holds that must be let go when the task is stopped. -/
inductive Hold where
  /-- A place in the limiter's queue. -/
  | waiter (id : Nat)
  /-- A slot of the limiter. -/
  | slot
  /-- The registration of a request's cancellation token. -/
  | registration (request : Int) (generation : Nat)
  /-- A private folder, removed with everything in it when let go. -/
  | scratch (path : String)
  deriving Repr, DecidableEq, Inhabited

/-- A change of a request that listeners hear of. -/
inductive Event where
  | progress (request : Int) (percent : Nat)
  | status (request : Int) (status : RequestStatus)
  deriving Repr, DecidableEq, Inhabited

/-- Where progress goes: to a recorder that keeps every event, or to a reporter that stores
progress (when attached to the store) and passes events on (when someone listens). -/
inductive Sink where
  | recorder
  | reporter (attached listening : Bool)
  deriving Repr, DecidableEq, Inhabited

/-- The shared state of the queue's tasks. -/
structure World where
  clock : Nat := 0
  log : Array LogLine := #[]
  disk : Files.Disk := {}
  store : Store.Store := default
  settings : Settings.Source := .fixed []
  sink : Sink := .reporter true false
  events : Array Event := #[]
  /-- Whether the pool has been told that there is new work. -/
  woken : Bool := false
  /-- How many times embedded tracks were listed. -/
  listings : Nat := 0
  /-- The tracks extracted: index, codec and language. -/
  extractions : Array (Nat × String × Option String) := #[]
  /-- The tasks that have ended, by number, with their outcome or their failure. -/
  finished : List (Nat × Except Fault Job.Outcome) := []
  /-- The requests whose execution has begun, in order, repeats included. -/
  started : Array Int := #[]
  /-- How the worker pool's run ended, once it has. -/
  poolEnd : Option (Except Fault Queue.PoolReport) := none
  tokens : Cancel.Tokens := {}
  registry : Cancel.Registry := {}
  limiter : Concurrency.Limiter := Concurrency.Limiter.make 1
  meter : Option Backend.Meter := none
  tally : Backend.Tally := {}
  captures : Array (Array LogLine) := #[]
  holds : List (Nat × Hold) := []
  deriving Inhabited

instance : Timed World := ⟨World.clock, fun w t => { w with clock := t }⟩

namespace World

/-- Adds lines to the library's log. -/
def logAll (w : World) (lines : List LogLine) : World := { w with log := w.log ++ lines.toArray }

/-- Lets go of one thing a task held. -/
def letGo (w : World) : Hold → World
  | .waiter id => { w with limiter := w.limiter.abandon id }
  | .slot => { w with limiter := w.limiter.release }
  | .registration r g => { w with registry := w.registry.release r g }
  | .scratch p => { w with disk := w.disk.remove p }

/-- Lets go of everything a stopped task held, the latest first. -/
def stopTask (id : Nat) (w : World) : World :=
  let mine := (w.holds.filter (·.1 == id)).reverse
  let w := { w with holds := w.holds.filter (·.1 != id) }
  mine.foldl (fun w h => w.letGo h.2) w

end World

/-- A computation of a task over the shared state. -/
abbrev Run := Proc World

namespace Run

/-- Writes lines to the library's log. -/
def log (lines : List LogLine) : Run Unit := modify fun w => w.logAll lines

/-- Writes one line to the library's log. -/
def note (level : Level) (message : String) : Run Unit := log [⟨level, message⟩]

/-- Records that the running task holds something. -/
def hold (h : Hold) : Run Unit := do
  let me ← Proc.self
  modify fun w => { w with holds := w.holds ++ [(me, h)] }

/-- Records that the running task no longer holds something. -/
def unhold (h : Hold) : Run Unit := do
  let me ← Proc.self
  modify fun w => { w with holds := w.holds.erase (me, h) }

/-- A new clear cancellation token. -/
def newToken : Run Nat := modifyGet fun w => let (t, ts) := w.tokens.fresh; (t, { w with tokens := ts })

/-- Whether a token is set. -/
def isCancelled (t : Nat) : Run Bool := do return (← get).tokens.isCancelled t

/-- Sets a token. -/
def cancelToken (t : Nat) : Run Unit := modify fun w => { w with tokens := w.tokens.cancel t }

/-- Runs an operation on the store at the time on the clock; its log lines go to the
library's log. -/
def stored {α : Type} (op : Store.StoreOp α) : Run (Except Fault α) :=
  modifyGet fun w =>
    let (r, s) := (ExceptT.run op).run { w.store with now := w.clock, log := #[] }
    (r, { w with store := { s with log := #[] }, log := w.log ++ s.log })

end Run

end SubtitleQueue

namespace SubtitleQueue

open Log

/-- Where a job's log lines go: its own list, and the library's log, prefixed with the
request's number when it has one. -/
structure Capture where
  slot : Nat
  request : Option Int := none
  deriving Repr, DecidableEq, Inhabited

namespace Run

/-- A new, empty capture. -/
def newCapture (request : Option Int) : Run Capture :=
  modifyGet fun w => (⟨w.captures.size, request⟩, { w with captures := w.captures.push #[] })

end Run

namespace Capture

/-- Writes a line to the capture and to the library's log. -/
def say (c : Capture) (level : Level) (message : String) : Run Unit :=
  modify fun w =>
    let shown := match c.request with
      | some id => "Request " ++ toString id ++ ": " ++ message
      | none => message
    { w with captures := w.captures.modify c.slot (·.push ⟨level, message⟩),
             log := w.log.push ⟨level, shown⟩ }

/-- The lines of a capture. -/
def lines (c : Capture) (w : World) : List LogLine := (w.captures.getD c.slot #[]).toList

/-- Empties a capture and returns what it held. -/
def drain (c : Capture) : Run (List LogLine) :=
  modifyGet fun w => ((w.captures.getD c.slot #[]).toList, { w with captures := w.captures.setIfInBounds c.slot #[] })

end Capture

end SubtitleQueue
