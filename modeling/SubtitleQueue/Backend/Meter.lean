import SubtitleQueue.Failure
import SubtitleQueue.Time.Duration
import SubtitleQueue.Log

/-!
The usage meter shared by all calls to a backend. Characters are reserved before a call and
given back when it fails, so that calls running together cannot pass the limit between them.
After a backend asked for payment the meter refuses every reservation until its pause has
run out. Counts are 64-bit words: a sum past the top wraps around, a refund stops at zero.
-/

namespace SubtitleQueue.Backend

open Log

/-- The state of a usage meter. Times are milliseconds on the queue's clock. -/
structure Meter where
  limit : Option Nat
  pauseMs : Nat
  used : Nat := 0
  pausedUntil : Option Nat := none
  deriving Repr, DecidableEq, Inhabited

namespace Meter

/-- Sums of 64-bit counts wrap around. -/
def wordSum (a b : Nat) : Nat := (a + b) % Nat.pow 2 64

/-- Whether reservations are refused at time `now`. -/
def isPaused (m : Meter) (now : Nat) : Bool :=
  match m.pausedUntil with
  | some t => now < t
  | none => false

/-- Reserves `n` characters at time `now`. A pause that has run out is lifted first (and the
log says so); a reservation past the limit is refused with the count used so far. -/
def reserve (m : Meter) (now n : Nat) : Except BackendError Meter × List LogLine :=
  match m.pausedUntil with
  | some t =>
    if now < t then (.error (.paymentRequired (Time.stamp t)), [])
    else (reserveOpen { m with pausedUntil := none } n,
      [⟨.info, "Payment pause elapsed, resuming backend calls"⟩])
  | none => (reserveOpen m n, [])
where
  reserveOpen (m : Meter) (n : Nat) : Except BackendError Meter :=
    match m.limit with
    | some l => if wordSum m.used n > l then .error (.quotaExceeded m.used l)
      else .ok { m with used := wordSum m.used n }
    | none => .ok { m with used := wordSum m.used n }

/-- Gives back `n` characters. -/
def refund (m : Meter) (n : Nat) : Meter := { m with used := m.used - n }

/-- Starts a payment pause at time `now`. -/
def pauseAt (m : Meter) (now : Nat) : Meter × List LogLine :=
  ({ m with pausedUntil := some (now + m.pauseMs) },
   [⟨.warn, "Backend requires payment, pausing calls for " ++ Time.millisText m.pauseMs⟩])

/-- What the meter makes of the result of a call that reserved `n` characters: a failure
gives them back, and a refusal for want of payment starts a pause. -/
def observe {α : Type} (m : Meter) (now n : Nat) (r : Except BackendError α) :
    Except BackendError α × Meter × List LogLine :=
  match r with
  | .ok a => (.ok a, m, [])
  | .error e =>
    let m := m.refund n
    match e with
    | .refused 402 d =>
      let (m, log) := m.pauseAt now
      (.error (.paymentRequired d), m, log)
    | .paymentRequired d =>
      let (m, log) := m.pauseAt now
      (.error (.paymentRequired d), m, log)
    | e => (.error e, m, [])

end Meter

end SubtitleQueue.Backend
