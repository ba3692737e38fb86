/-!
Why an operation of the queue fails. Each kind of failure is a cause with one message
function; `Fault` is a cause wrapped in the context of the steps that led to it, and its
message reads from the outermost step inwards, joined by colons.
-/

namespace SubtitleQueue

/-- Failures of a translating backend. -/
inductive BackendError where
  | requestFailed (detail : String)
  | unreadableAnswer (detail : String)
  | refused (status : Nat) (detail : String)
  | connection (detail : String)
  | rateLimited (detail : String)
  | unauthorized (detail : String)
  | paymentRequired (resumeAt : String)
  | quotaExceeded (used limit : Nat)
  | emptyAnswer
  | batchUnsupported
  deriving Repr, DecidableEq, Inhabited

namespace BackendError

/-- The text of a backend failure. -/
def message : BackendError → String
  | .requestFailed d => "API request failed: " ++ d
  | .unreadableAnswer d => "Failed to parse API response: " ++ d
  | .refused s d => "API responded with error: " ++ toString s ++ " - " ++ d
  | .connection d => "Connection error: " ++ d
  | .rateLimited d => "Rate limit exceeded: " ++ d
  | .unauthorized d => "Authentication error: " ++ d
  | .paymentRequired u => "Payment required, backend paused until " ++ u
  | .quotaExceeded u l => "Usage quota exceeded: " ++ toString u ++ " of " ++ toString l ++ " characters"
  | .emptyAnswer => "Backend returned an empty translation"
  | .batchUnsupported => "Backend does not support batch translation"

/-- A failure that may pass if the call is made again: transport trouble, rate limits, an
empty answer, and refusals with status 429 or from 500 up. -/
def isTransient : BackendError → Bool
  | .requestFailed _ | .connection _ | .rateLimited _ | .emptyAnswer => true
  | .refused s _ => s == 429 || s ≥ 500
  | _ => false

/-- A failure that ends a whole batch at once instead of being retried in smaller chunks:
bad credentials, a required payment, an exhausted quota. -/
def abortsBatch : BackendError → Bool
  | .unauthorized _ | .paymentRequired _ | .quotaExceeded _ _ => true
  | _ => false

end BackendError

/-- Failures of subtitle files. -/
inductive SubtitleError where
  | notFound (path : String)
  | invalid (reason : String)
  | extractionFailed (reason : String)
  deriving Repr, DecidableEq, Inhabited

/-- The text of a subtitle failure. -/
def SubtitleError.message : SubtitleError → String
  | .notFound p => "Subtitle file not found: " ++ p
  | .invalid r => "Subtitle validation failed: " ++ r
  | .extractionFailed r => "Embedded subtitle extraction failed: " ++ r

/-- Failures of a job that turns a subtitle into another language. -/
inductive JobError where
  | backend (e : BackendError)
  | subtitle (e : SubtitleError)
  | cancelled
  | batchExhausted (failedCount : Nat) (positions : List Nat) (done : List (Nat × String))
  | rejected (reason : String)
  | repairFailed (failedCount : Nat) (examples : List String)
  deriving Repr, DecidableEq, Inhabited

/-- The text of a job failure. -/
def JobError.message : JobError → String
  | .backend e => "Provider error: " ++ e.message
  | .subtitle e => "Subtitle error: " ++ e.message
  | .cancelled => "Translation was cancelled"
  | .batchExhausted n _ _ => "Batch translation failed for " ++ toString n ++ " item(s) after splitting"
  | .rejected r => "Subtitle rejected by validation: " ++ r
  | .repairFailed n ex => "Repair failed for " ++ toString n ++ " line(s): " ++ " | ".intercalate ex

/-- Failures of the request queue. -/
inductive QueueError where
  | notFound (id : Int)
  | staleExecution (id : Int) (status : String) (job : String)
  | invalidTransition (id : Int) (source target : String)
  | invalidRequest (reason : String)
  deriving Repr, DecidableEq, Inhabited

/-- The text of a queue failure. -/
def QueueError.message : QueueError → String
  | .notFound id => "Translation request " ++ toString id ++ " not found"
  | .staleExecution id s j =>
    "Translation request " ++ toString id ++ " is already " ++ s ++ "; refusing to resume it as job " ++ j
  | .invalidTransition id a b => "Cannot move request " ++ toString id ++ " from " ++ a ++ " to " ++ b
  | .invalidRequest r => "Invalid request: " ++ r

/-- The innermost cause of a fault. A failure of the store carries its message and the line
that names its result code. -/
inductive Cause where
  | backend (e : BackendError)
  | subtitle (e : SubtitleError)
  | job (e : JobError)
  | queue (e : QueueError)
  | store (message : String) (code : String)
  | other (message : String)
  /-- The program stopped on an assumption that did not hold; nothing on the way handles it. -/
  | panic (message : String)
  deriving Repr, DecidableEq, Inhabited

/-- The text of a cause. -/
def Cause.message : Cause → String
  | .backend e => e.message
  | .subtitle e => e.message
  | .job e => e.message
  | .queue e => e.message
  | .store m _ => m
  | .other m => m
  | .panic m => m

/-- The messages of a cause and of the failures it wraps, outermost first: a job failure
caused by a backend or subtitle failure names that failure once more. -/
def Cause.chain : Cause → List String
  | .job (.backend e) => [(JobError.backend e).message, e.message]
  | .job (.subtitle e) => [(JobError.subtitle e).message, e.message]
  | .store m code => [m, code]
  | c => [c.message]

/-- A cause inside the context of the steps that met it, outermost first. -/
structure Fault where
  cause : Cause
  context : List String := []
  deriving Repr, DecidableEq, Inhabited

namespace Fault

/-- A fault with a plain message. -/
def msg (m : String) : Fault := { cause := .other m }

/-- Whether the fault is a panic. -/
def isPanic (f : Fault) : Bool :=
  match f.cause with
  | .panic _ => true
  | _ => false

/-- The same fault seen from an enclosing step. -/
def within (f : Fault) (step : String) : Fault := { f with context := step :: f.context }

/-- The chain of messages, outermost first. -/
def chain (f : Fault) : List String := f.context ++ f.cause.chain

/-- The messages of the chain joined by colons. -/
def message (f : Fault) : String := ": ".intercalate f.chain

/-- The outermost message alone. -/
def headline (f : Fault) : String := f.chain.headD ""

end Fault

instance : Coe BackendError Fault := ⟨fun e => { cause := .backend e }⟩
instance : Coe SubtitleError Fault := ⟨fun e => { cause := .subtitle e }⟩
instance : Coe JobError Fault := ⟨fun e => { cause := .job e }⟩
instance : Coe QueueError Fault := ⟨fun e => { cause := .queue e }⟩

/-- Adds a step to the context of a failed result. -/
def withContext {α : Type} (step : String) (r : Except Fault α) : Except Fault α :=
  match r with
  | .ok a => .ok a
  | .error f => .error (f.within step)

end SubtitleQueue
