import SubtitleQueue.Process.Task

/-!
Running tasks together on one thread with a clock that moves only when every task waits.
Runnable tasks take turns in the order they became runnable; each runs until it waits,
yields or ends. When a task has run, every waiting task whose condition now holds becomes
runnable, in the order they began to wait. Tasks that yielded run again once the queue is
empty. When nothing can run, the clock jumps to the earliest deadline and every task whose
deadline has come becomes runnable, earliest deadline first.
-/

namespace SubtitleQueue.Process

variable {σ α : Type}

/-- A task that waits, with the order in which it began to wait. -/
structure Waiter (σ α : Type) where
  id : Nat
  order : Nat
  deadline : Option Nat
  ready : σ → Bool
  k : Bool → Proc σ α

/-- Why a task gave the turn back. -/
inductive Halt (σ α : Type) where
  | ended (value : Option α)
  | waiting (deadline : Option Nat) (ready : σ → Bool) (k : Bool → Proc σ α)
  | yielded (k : Proc σ α)
  | spawned (child : Nat → Proc σ α) (k : Nat → Proc σ α)
  | aborting (id : Nat) (k : Proc σ α)
  | asking (id : Nat) (k : Bool → Proc σ α)

/-- Runs task `id` until it waits, yields, ends, or deals with another task. A wait whose
condition holds, or whose deadline has passed, goes on at once. -/
def segment [Timed σ] (id : Nat) : Proc σ α → σ → σ × Halt σ α
  | .done a, s => (s, .ended (some a))
  | .halt, s => (s, .ended none)
  | .look k, s => segment id (k s) s
  | .put s' k, _ => segment id k s'
  | .pause d r k, s =>
    if r s then segment id (k true) s
    else match d with
      | some t => if t ≤ Timed.now s then segment id (k false) s else (s, .waiting d r k)
      | none => (s, .waiting d r k)
  | .yield k, s => (s, .yielded k)
  | .spawn c k, s => (s, .spawned c k)
  | .abort i k, s => (s, .aborting i k)
  | .current k, s => segment id (k id) s
  | .alive i k, s => (s, .asking i k)

/-- Tasks running together over a state; task 0 is the main task, whose value is kept. -/
structure Scheduler (σ α : Type) where
  state : σ
  runnable : List (Nat × Proc σ α) := []
  deferred : List (Nat × Proc σ α) := []
  waiting : List (Waiter σ α) := []
  nextId : Nat := 0
  nextOrder : Nat := 0
  result : Option α := none
  /-- What stopping a task does to the state: the things the task held are let go. -/
  onAbort : Nat → σ → σ := fun _ s => s

namespace Scheduler

/-- A scheduler with one main task. -/
def start (s : σ) (main : Proc σ α) (onAbort : Nat → σ → σ) : Scheduler σ α :=
  { state := s, runnable := [(0, main)], nextId := 1, onAbort }

/-- Makes runnable every waiting task whose condition holds now. -/
def wake (sch : Scheduler σ α) : Scheduler σ α :=
  let (up, still) := sch.waiting.partition fun w => w.ready sch.state
  { sch with waiting := still, runnable := sch.runnable ++ up.map fun w => (w.id, w.k true) }

/-- Removes a task wherever it is. -/
def drop (sch : Scheduler σ α) (id : Nat) : Scheduler σ α :=
  { sch with runnable := sch.runnable.filter (·.1 != id),
             deferred := sch.deferred.filter (·.1 != id),
             waiting := sch.waiting.filter (·.id != id) }

/-- Whether a task still runs or waits. -/
def isLive (sch : Scheduler σ α) (id : Nat) : Bool :=
  sch.runnable.any (·.1 == id) || sch.deferred.any (·.1 == id) || sch.waiting.any (·.id == id)

/-- The earliest deadline of a waiting task. -/
def earliest (ws : List (Waiter σ α)) : Option Nat :=
  ws.foldl (fun acc w => match w.deadline, acc with
    | some t, some a => some (min t a)
    | some t, none => some t
    | none, a => a) none

/-- Whether a waiter's deadline has come by time `t`. -/
def due (t : Nat) (w : Waiter σ α) : Bool :=
  match w.deadline with
  | some d => d ≤ t
  | none => false

/-- One turn: the first runnable task runs; or yielded tasks come back; or the clock moves
to the next deadline. `none` when no task can ever run again. -/
def turn [Timed σ] (sch : Scheduler σ α) : Option (Scheduler σ α) :=
  match sch.runnable with
  | (id, t) :: rest =>
    let (s, h) := segment id t sch.state
    let sch := { sch with state := s, runnable := rest }
    some <| match h with
      | .ended v => wake (if id == 0 then { sch with result := v } else sch)
      | .waiting d r k =>
        wake { sch with waiting := sch.waiting ++ [⟨id, sch.nextOrder, d, r, k⟩],
                        nextOrder := sch.nextOrder + 1 }
      | .yielded k => wake { sch with deferred := sch.deferred ++ [(id, k)] }
      | .spawned c k =>
        let n := sch.nextId
        wake { sch with runnable := (id, k n) :: sch.runnable ++ [(n, c n)], nextId := n + 1 }
      | .aborting i k =>
        let live := sch.isLive i
        let sch := sch.drop i
        let s := if live then sch.onAbort i sch.state else sch.state
        wake { sch with state := s, runnable := (id, k) :: sch.runnable }
      | .asking i k => { sch with runnable := (id, k (sch.isLive i)) :: sch.runnable }
  | [] =>
    if !sch.deferred.isEmpty then
      some { sch with runnable := sch.deferred, deferred := [] }
    else match earliest sch.waiting with
      | none => none
      | some t =>
        let now := max t (Timed.now sch.state)
        let (fired, still) := sch.waiting.partition (due now)
        let fired := fired.mergeSort fun a b =>
          match a.deadline, b.deadline with
          | some x, some y => x < y || (x == y && a.order ≤ b.order)
          | _, _ => a.order ≤ b.order
        some { sch with state := Timed.setNow sch.state now, waiting := still,
                        runnable := fired.map fun w => (w.id, w.k false) }

/-- Runs for at most `fuel` turns, or until no task can run. -/
def run [Timed σ] : Nat → Scheduler σ α → Scheduler σ α
  | 0, sch => sch
  | fuel + 1, sch =>
    match sch.turn with
    | some sch' => run fuel sch'
    | none => sch

/-- Runs for at most `fuel` turns, until the main task has ended, or until no task can run
without the clock passing `limit`. -/
def runBefore [Timed σ] (limit : Nat) : Nat → Scheduler σ α → Scheduler σ α
  | 0, sch => sch
  | fuel + 1, sch =>
    let stalled := sch.runnable.isEmpty && sch.deferred.isEmpty &&
      (earliest sch.waiting).all (limit < ·)
    if sch.result.isSome || stalled then sch
    else match sch.turn with
      | some sch' => runBefore limit fuel sch'
      | none => sch

end Scheduler

/-- Runs a main task, with the tasks it starts, until it ends or nothing can run before the
clock passes `limit`, for at most `fuel` turns; returns the state then and the main task's
value, if it ended. -/
def runMainBefore [Timed σ] (fuel limit : Nat) (s : σ) (onAbort : Nat → σ → σ) (main : Proc σ α) :
    σ × Option α :=
  let sch := Scheduler.runBefore limit fuel (Scheduler.start s main onAbort)
  (sch.state, sch.result)

/-- Runs a main task, with the tasks it starts, until none can run, for at most `fuel` turns;
returns the final state and the main task's value. -/
def runMain [Timed σ] (fuel : Nat) (s : σ) (onAbort : Nat → σ → σ) (main : Proc σ α) : σ × Option α :=
  let sch := Scheduler.run fuel (Scheduler.start s main onAbort)
  (sch.state, sch.result)

end SubtitleQueue.Process
