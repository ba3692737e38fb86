/-!
Cancellation. A token is a flag that only ever goes from clear to set; tokens are numbered in
the order they are made. The registry keeps, for each request that is running, the token
that cancels it. Registering a request again replaces its entry, and every registration
carries a fresh generation number, so that a guard that goes out of scope removes the entry
only if it is still its own.
-/

namespace SubtitleQueue.Cancel

/-- All tokens made so far, set or clear, by number. -/
structure Tokens where
  flags : Array Bool := #[]
  deriving Repr, Inhabited

namespace Tokens

/-- A new clear token. -/
def fresh (ts : Tokens) : Nat × Tokens := (ts.flags.size, { flags := ts.flags.push false })

/-- Sets a token. -/
def cancel (ts : Tokens) (t : Nat) : Tokens := { flags := ts.flags.setIfInBounds t true }

/-- Whether a token is set. -/
def isCancelled (ts : Tokens) (t : Nat) : Bool := ts.flags.getD t false

end Tokens

/-- The entry of one request: the generation of its registration and its token. -/
structure Entry where
  request : Int
  generation : Nat
  token : Nat
  deriving Repr, DecidableEq, Inhabited

/-- The tokens of the running requests. -/
structure Registry where
  entries : List Entry := []
  nextGeneration : Nat := 0
  deriving Repr, Inhabited

namespace Registry

/-- Registers a request under a given token, replacing any entry it had; returns the
generation of this registration. -/
def register (r : Registry) (request : Int) (token : Nat) : Nat × Registry :=
  let g := r.nextGeneration
  (g, { entries := r.entries.filter (·.request != request) ++ [⟨request, g, token⟩],
        nextGeneration := g + 1 })

/-- The token of a request, if it is registered. -/
def token? (r : Registry) (request : Int) : Option Nat :=
  (r.entries.find? (·.request == request)).map (·.token)

/-- Removes the entry of a request. -/
def unregister (r : Registry) (request : Int) : Registry :=
  { r with entries := r.entries.filter (·.request != request) }

/-- Removes the entry of a request only if it still belongs to the given registration. -/
def release (r : Registry) (request : Int) (generation : Nat) : Registry :=
  { r with entries := r.entries.filter fun e => !(e.request == request && e.generation == generation) }

/-- Whether a request is registered. -/
def isRegistered (r : Registry) (request : Int) : Bool := r.entries.any (·.request == request)

/-- How many requests are registered. -/
def size (r : Registry) : Nat := r.entries.length

end Registry

/-- Cancels a registered request: sets its token and says whether there was one. -/
def cancelRequest (r : Registry) (ts : Tokens) (request : Int) : Bool × Tokens :=
  match r.token? request with
  | some t => (true, ts.cancel t)
  | none => (false, ts)

end SubtitleQueue.Cancel
