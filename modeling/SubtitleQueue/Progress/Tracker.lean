/-!
Progress of a job as a percentage that only rises. The share done is rounded down, capped,
and reported only when it passes the last value reported; a job with nothing to do is done.
-/

namespace SubtitleQueue.Progress

/-- A tracker over `total` units, never reporting above `cap` (at most 100). -/
structure Tracker where
  total : Nat
  cap : Nat
  last : Nat := 0
  deriving Repr, DecidableEq, Inhabited

/-- A tracker with its cap clamped to 100. -/
def Tracker.make (total cap : Nat) : Tracker := { total, cap := min cap 100 }

/-- Records `done` units: the new percentage if it rose, and the updated tracker. Products
are taken as 64-bit words. -/
def Tracker.advance (t : Tracker) (done : Nat) : Option Nat × Tracker :=
  let raw := if t.total == 0 then 100 else ((min done t.total * 100) % Nat.pow 2 64 / t.total) % 256
  let next := min raw t.cap
  if next > t.last then (some next, { t with last := next }) else (none, t)

end SubtitleQueue.Progress
