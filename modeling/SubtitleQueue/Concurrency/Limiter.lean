import SubtitleQueue.Log

/-!
A limit on how many jobs talk to the backend at once. A job takes a slot if one is free and
nobody waits; otherwise it queues, priority jobs ahead of all others and first come first
served within each tier. A freed slot goes straight to the head of the queue, so a newcomer
never overtakes it. When the limit shrinks while slots are held, the count of free slots goes
below zero, and later releases pay off that debt before anyone is served.
-/

namespace SubtitleQueue.Concurrency

open Log

/-- A queued job: the number of its place in line and its tier. -/
structure Waiter where
  id : Nat
  priority : Bool
  deriving Repr, DecidableEq, Inhabited

/-- The state of the limiter. `granted` holds the waiters that were handed a slot and have
not yet taken it. -/
structure Limiter where
  max : Nat
  available : Int
  waiters : List Waiter := []
  nextWaiter : Nat := 0
  granted : List Nat := []
  deriving Repr, DecidableEq, Inhabited

namespace Limiter

/-- A whole number as a signed 64-bit word holds it: past either end it wraps around. -/
def signedWord (x : Int) : Int :=
  (x + 9223372036854775808) % 18446744073709551616 - 9223372036854775808

/-- A limiter for `n` jobs at once (at least one). -/
def make (n : Nat) : Limiter := { max := Nat.max n 1, available := signedWord (Nat.max n 1 : Nat) }

/-- Hands free slots to the head of the queue while any are free; returns how many waiters
were served. -/
def dispatch (l : Limiter) : Limiter × Nat :=
  go l.available l.waiters l.granted 0
where
  go (available : Int) (ws : List Waiter) (granted : List Nat) (woken : Nat) : Limiter × Nat :=
    match ws with
    | w :: rest =>
      if available > 0 then go (available - 1) rest (granted ++ [w.id]) (woken + 1)
      else ({ l with available, waiters := ws, granted }, woken)
    | [] => ({ l with available, waiters := [], granted }, woken)

/-- Takes a free slot at once, if one is free and nobody waits. -/
def tryTake (l : Limiter) : Option Limiter :=
  if l.available > 0 && l.waiters.isEmpty then some { l with available := l.available - 1 }
  else none

/-- Queues a waiter: a priority waiter goes before the first ordinary one. -/
def enqueue (l : Limiter) (priority : Bool) : Nat × Limiter :=
  let id := l.nextWaiter
  let w : Waiter := ⟨id, priority⟩
  let ws := if priority then
      let ahead := l.waiters.takeWhile (·.priority)
      ahead ++ w :: l.waiters.drop ahead.length
    else l.waiters ++ [w]
  (id, { l with waiters := ws, nextWaiter := id + 1 })

/-- Whether a waiter has been handed a slot. -/
def isGranted (l : Limiter) (id : Nat) : Bool := l.granted.contains id

/-- The waiter takes the slot it was handed. -/
def take (l : Limiter) (id : Nat) : Limiter := { l with granted := l.granted.erase id }

/-- Gives a slot back and serves the queue. -/
def release (l : Limiter) : Limiter := (dispatch { l with available := signedWord (l.available + 1) }).1

/-- Takes a waiter out of the queue; `false` if it is no longer there. -/
def withdraw (l : Limiter) (id : Nat) : Bool × Limiter :=
  if l.waiters.any (·.id == id) then (true, { l with waiters := l.waiters.filter (·.id != id) })
  else (false, l)

/-- A waiter gives up: it leaves the queue, or, if a slot was already handed to it, gives
that slot back. -/
def abandon (l : Limiter) (id : Nat) : Limiter :=
  match l.withdraw id with
  | (true, l) => l
  | (false, l) => if l.isGranted id then (l.take id).release else l

/-- Changes the limit (at least one): the free count moves by the difference and the queue
is served. Returns how many waiters were served, and the log line of a change. -/
def setMax (l : Limiter) (n : Nat) : Limiter × Nat × List LogLine :=
  let m := Nat.max n 1
  if l.max == m then (l, 0, [])
  else
    let line : LogLine := ⟨.info, "Translation concurrency changed from " ++ toString l.max ++
      " to " ++ toString m⟩
    let delta := signedWord (signedWord m - signedWord l.max)
    let (l', woken) := dispatch { l with max := m, available := signedWord (l.available + delta) }
    (l', woken, [line])

/-- How many jobs wait. -/
def waiting (l : Limiter) : Nat := l.waiters.length

end Limiter

end SubtitleQueue.Concurrency
