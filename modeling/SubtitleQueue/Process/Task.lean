/-!
Tasks that share a state and a clock. A task is a tree of steps: it reads the state, replaces
it, waits for a condition or a time, lets the others run, starts another task, stops one, or
asks whether one still runs; it ends with a value, or just ends. Every path through the tree
is finite, so running a task up to its next wait is structural recursion on the tree; a loop
with no bound in its data carries an explicit count of rounds.
-/

namespace SubtitleQueue.Process

/-- A computation of a task over a shared state `σ`, ending with a value of `α`. -/
inductive Proc (σ : Type) (α : Type) where
  /-- Ends with a value. -/
  | done (a : α)
  /-- Ends without a value. -/
  | halt
  /-- Reads the state. -/
  | look (k : σ → Proc σ α)
  /-- Replaces the state. -/
  | put (s : σ) (k : Proc σ α)
  /-- Waits until `ready` holds (going on with `true`) or the clock reaches the deadline
  (going on with `false`). A wait whose condition already holds does not wait. -/
  | pause (deadline : Option Nat) (ready : σ → Bool) (k : Bool → Proc σ α)
  /-- Lets every other task that can run do so first. -/
  | yield (k : Proc σ α)
  /-- Starts a task, given its number, and goes on with that number. The started task's
  value is dropped. -/
  | spawn (child : Nat → Proc σ α) (k : Nat → Proc σ α)
  /-- Stops the task with the given number, wherever it waits. -/
  | abort (id : Nat) (k : Proc σ α)
  /-- Learns the number of the running task. -/
  | current (k : Nat → Proc σ α)
  /-- Learns whether the task with the given number still runs or waits. -/
  | alive (id : Nat) (k : Bool → Proc σ α)

namespace Proc

variable {σ α β : Type}

/-- The same steps, ending without a value. -/
def halting : Proc σ α → Proc σ β
  | .done _ => .halt
  | .halt => .halt
  | .look k => .look fun s => halting (k s)
  | .put s k => .put s (halting k)
  | .pause d r k => .pause d r fun b => halting (k b)
  | .yield k => .yield (halting k)
  | .spawn c k => .spawn (fun n => halting (c n)) fun n => halting (k n)
  | .abort i k => .abort i (halting k)
  | .current k => .current fun n => halting (k n)
  | .alive i k => .alive i fun b => halting (k b)

/-- Runs `m`, then `f` on its value. -/
def bind : Proc σ α → (α → Proc σ β) → Proc σ β
  | .done a, f => f a
  | .halt, _ => .halt
  | .look k, f => .look fun s => bind (k s) f
  | .put s k, f => .put s (bind k f)
  | .pause d r k, f => .pause d r fun b => bind (k b) f
  | .yield k, f => .yield (bind k f)
  | .spawn c k, f => .spawn (fun n => halting (c n)) fun n => bind (k n) f
  | .abort i k, f => .abort i (bind k f)
  | .current k, f => .current fun n => bind (k n) f
  | .alive i k, f => .alive i fun b => bind (k b) f

instance : Monad (Proc σ) where
  pure := .done
  bind := bind

instance : MonadStateOf σ (Proc σ) where
  get := .look .done
  set s := .put s (.done ())
  modifyGet f := .look fun s => .put (f s).2 (.done (f s).1)

instance : Inhabited (Proc σ α) := ⟨.halt⟩

/-- Waits for a condition or a deadline; `true` if the condition woke the task. -/
def waitUntil (deadline : Option Nat) (ready : σ → Bool) : Proc σ Bool := .pause deadline ready .done

/-- Lets the other tasks run. -/
def yieldNow : Proc σ Unit := .yield (.done ())

/-- Starts a task that knows its own number; returns that number. -/
def spawnTask (child : Nat → Proc σ Unit) : Proc σ Nat := .spawn (fun n => halting (child n)) .done

/-- Stops another task. -/
def abortTask (id : Nat) : Proc σ Unit := .abort id (.done ())

/-- The number of the running task. -/
def self : Proc σ Nat := .current .done

/-- Whether a task still runs or waits. -/
def isAlive (id : Nat) : Proc σ Bool := .alive id .done

end Proc

/-- A state that holds a clock, in milliseconds. -/
class Timed (σ : Type) where
  now : σ → Nat
  setNow : σ → Nat → σ

namespace Proc

variable {σ : Type} [Timed σ]

/-- The time on the clock. -/
def now : Proc σ Nat := .look fun s => .done (Timed.now s)

/-- Sleeps for `ms` milliseconds. -/
def sleep (ms : Nat) : Proc σ Unit := do
  let t ← now
  let _ ← waitUntil (some (t + ms)) (fun _ => false)
  pure ()

/-- Sleeps until the clock reads `t`. -/
def sleepUntil (t : Nat) : Proc σ Unit := do
  let _ ← waitUntil (some t) (fun _ => false)
  pure ()

/-- Sleeps for `ms` milliseconds unless `stop` holds first; `true` if it did. -/
def sleepUnless (ms : Nat) (stop : σ → Bool) : Proc σ Bool := do
  let t ← now
  waitUntil (some (t + ms)) stop

end Proc

end SubtitleQueue.Process
