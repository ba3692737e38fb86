import SubtitleQueue.World
import SubtitleQueue.Text.Blank

/-!
A backend as a stack of layers over a base that translates. The retry layer calls again after
a failure that may pass, waiting twice as long each time; the metering layer reserves the
characters of a call on the shared meter before passing it on, and gives them back if it
fails. A call may be given a cancellation token: when the token is set while the call waits,
the call is dropped where it stands and ends with `none`.
-/

namespace SubtitleQueue.Backend

open Log Process

/-- The base of a backend stack. -/
inductive Base where
  /-- The scripted backend. -/
  | mock (m : Mock)
  /-- A backend that only translates single lines, through the scripted one; it takes no
  batches. -/
  | plain (m : Mock)
  /-- A generation server at an address. Its connections cannot be made: every call ends
  with the HTTP client's failure, which names the address it tried. -/
  | remote (endpoint : String)
  deriving Repr, Inhabited

/-- How the retry layer retries: at most `maxRetries` times, the first wait `backoffMs`. -/
structure Retry where
  maxRetries : Nat := 3
  backoffMs : Nat := 100
  deriving Repr, DecidableEq, Inhabited

/-- A backend: a base, maybe a retry layer over it, maybe the meter over that. -/
structure Stack where
  base : Base
  retry : Option Retry := none
  metered : Bool := false
  deriving Repr, Inhabited

/-- The end of a backend call: its result, or `none` if the caller's token stopped it. -/
abbrev Outcome (α : Type) := Option (Except BackendError α)

namespace Base

/-- The name the backend reports. -/
def name : Base → String
  | .mock _ => "mock"
  | .plain _ => "plain"
  | .remote _ => "ollama"

/-- Whether the base takes batches. -/
def supportsBatch : Base → Bool
  | .mock m => m.batches
  | .plain _ => false
  | .remote _ => true

/-- The address that calls to a generation server go to. -/
def generateUrl (endpoint : String) : String :=
  String.ofList ((endpoint.toList.reverse.dropWhile (· == '/')).reverse) ++ "/api/generate"

/-- The failure of a call to a generation server: a request to an address that is not an
HTTP address cannot be built; any other cannot connect. -/
def unreachable (endpoint : String) : BackendError :=
  let url := generateUrl endpoint
  if url.startsWith "http://" || url.startsWith "https://" then
    .connection ("error sending request for url (" ++ url ++ ")")
  else .requestFailed ("builder error for url (" ++ url ++ ")")

end Base

/-- Sleeps, unless the token is set first; `true` if it slept to the end. -/
def nap (cancel : Option Nat) (ms : Nat) : Run Bool := do
  match cancel with
  | some t => return !(← Proc.sleepUnless ms fun w => w.tokens.isCancelled t)
  | none => Proc.sleep ms; return true

/-- Counts a call of the scripted backend and passes it through its gate. -/
def mockGate (m : Mock) (cancel : Option Nat) : Run (Outcome Unit) := do
  let count ← modifyGet fun w => (w.tally.calls, { w with tally.calls := w.tally.calls + 1 })
  if m.delay > 0 then
    if !(← nap cancel m.delay) then return none
  return some (m.gate count)

/-- What a call asks for: the languages and the context lines around the text. -/
structure Ask where
  source : String
  target : String
  before : List String := []
  after : List String := []
  deriving Repr, Inhabited

/-- Translates one line with the base. -/
def Base.translate (b : Base) (cancel : Option Nat) (text : String) (ask : Ask) : Run (Outcome String) := do
  match b with
  | .remote endpoint => return some (.error (Base.unreachable endpoint))
  | .mock m | .plain m =>
    match ← mockGate m cancel with
    | none => return none
    | some (.error e) => return some (.error e)
    | some (.ok ()) => return some (.ok (Mock.translated text ask.target))

/-- Translates a batch with the base: translations by position. -/
def Base.translateBatch (b : Base) (cancel : Option Nat) (items : List (Nat × String)) (ask : Ask) :
    Run (Outcome (List (Nat × String))) := do
  match b with
  | .remote endpoint => return some (.error (Base.unreachable endpoint))
  | .plain _ => return some (.error .batchUnsupported)
  | .mock m =>
    if !m.batches then return some (.error .batchUnsupported)
    modify fun w => { w with tally.batchCalls := w.tally.batchCalls ++ [items.map (·.1)] }
    match ← mockGate m cancel with
    | none => return none
    | some (.error e) => return some (.error e)
    | some (.ok ()) => return some (m.batchAnswer items ask.target)

/-- The wait before retry number `attempt` (from one): the base wait doubled for each retry
before it, doubling at most sixteen times. -/
def Retry.backoff (r : Retry) (attempt : Nat) : Nat := r.backoffMs * Nat.pow 2 (Nat.min (attempt - 1) 16)

/-- Calls `once` until it succeeds, fails for good, or the retries run out; each retry is
logged with `note` and waited for with `wait`, which says whether the wait ran to its end.
`left` counts the retries still allowed. -/
def retrying {m : Type → Type} [Monad m] {α : Type} (note : Level → String → m Unit)
    (wait : Nat → m Bool) (r : Retry) (name op : String) (once : m (Outcome α)) :
    Nat → m (Outcome α)
  | 0 => once
  | left + 1 => do
    match ← once with
    | some (.error e) =>
      if e.isTransient then
        let attempt := r.maxRetries - left
        let delay := r.backoff attempt
        note .warn (name ++ " " ++ op ++ " failed (" ++ e.message ++ "), retry " ++ toString attempt ++
          "/" ++ toString r.maxRetries ++ " in " ++ Time.millisText delay)
        if !(← wait delay) then return none
        retrying note wait r name op once left
      else return some (.error e)
    | other => return other

/-- Reserves characters on the meter, runs the call, and lets the meter see its result. -/
def metering {α : Type} (chars : Nat) (call : Run (Outcome α)) : Run (Outcome α) := do
  let w ← get
  match w.meter with
  | none => call
  | some m =>
    let (r, lines) := m.reserve w.clock chars
    Run.log lines
    match r with
    | .error e => return some (.error e)
    | .ok m =>
      modify fun w => { w with meter := some m }
      match ← call with
      | none => return none
      | some r =>
        let w ← get
        match w.meter with
        | none => return some r
        | some m =>
          let (r, m, lines) := m.observe w.clock chars r
          modify fun w => { w with meter := some m }
          Run.log lines
          return some r

namespace Stack

/-- The name the backend reports. -/
def name (s : Stack) : String := s.base.name

/-- Whether the backend takes batches. -/
def supportsBatch (s : Stack) : Bool := s.base.supportsBatch

/-- Translates one line. -/
def translate (s : Stack) (cancel : Option Nat) (text : String) (ask : Ask) : Run (Outcome String) :=
  let inner := s.base.translate cancel text ask
  let retried := match s.retry with
    | some r => retrying Run.note (nap cancel) r s.name "translate" inner r.maxRetries
    | none => inner
  if s.metered then metering (Text.charCount text) retried else retried

/-- Translates a batch: translations by position. -/
def translateBatch (s : Stack) (cancel : Option Nat) (items : List (Nat × String)) (ask : Ask) :
    Run (Outcome (List (Nat × String))) :=
  let inner := s.base.translateBatch cancel items ask
  let retried := match s.retry with
    | some r => retrying Run.note (nap cancel) r s.name "batch" inner r.maxRetries
    | none => inner
  if s.metered then metering ((items.map fun it => Text.charCount it.2).foldl (· + ·) 0) retried else retried

end Stack

end SubtitleQueue.Backend
