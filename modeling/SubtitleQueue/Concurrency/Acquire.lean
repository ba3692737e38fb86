import SubtitleQueue.World
import SubtitleQueue.Failure
import SubtitleQueue.Settings.Basic

/-!
Taking and giving back slots of the shared limiter from inside a task. A task that gets a
slot holds it until it gives it back or is stopped; a task that waits in line and is stopped
leaves the line, or hands on the slot it was just given.
-/

namespace SubtitleQueue.Concurrency

open Process

/-- Waits for a slot, unless the token is set first; a token set before the call refuses at
once. A slot handed over and a token set together: the slot wins. -/
def acquire (priority : Bool) (token : Nat) : Run (Except JobError Unit) := do
  if ← Run.isCancelled token then return .error .cancelled
  let w ← get
  match w.limiter.tryTake with
  | some l =>
    set { w with limiter := l }
    Run.hold .slot
    return .ok ()
  | none =>
    let (id, l) := w.limiter.enqueue priority
    set { w with limiter := l }
    Run.hold (.waiter id)
    let _ ← Proc.waitUntil none fun w => w.limiter.isGranted id || w.tokens.isCancelled token
    Run.unhold (.waiter id)
    let w ← get
    if w.limiter.isGranted id then
      set { w with limiter := w.limiter.take id }
      Run.hold .slot
      return .ok ()
    else
      set { w with limiter := w.limiter.abandon id }
      return .error .cancelled

/-- Gives back a slot the running task holds. -/
def releaseSlot : Run Unit := do
  Run.unhold .slot
  modify fun w => { w with limiter := w.limiter.release }

/-- Changes the limit; returns how many waiters were served. -/
def setLimit (n : Nat) : Run Nat := do
  let w ← get
  let (l, woken, lines) := w.limiter.setMax n
  set (w.logAll lines |> fun w => { w with limiter := l })
  return woken

/-- Sets the limit from the text of the `max_concurrent_jobs` setting (one when it is absent
or not a count); returns the limit, at least one. -/
def refreshLimit (value : Option String) : Run Nat := do
  let n := Settings.parseCount value 1
  let _ ← setLimit n
  return Nat.max n 1

end SubtitleQueue.Concurrency
