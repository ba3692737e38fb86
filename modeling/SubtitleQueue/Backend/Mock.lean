import SubtitleQueue.Failure

/-!
A scripted backend for tests and dry runs. It counts its calls and records the positions of
every batch it is sent; its behaviour decides which calls fail. A translation is the text
tagged with the target language, `[fr] text`.
-/

namespace SubtitleQueue.Backend

/-- How the scripted backend behaves. -/
inductive Behavior where
  | working
  /-- The first `n` calls fail as if the connection dropped. -/
  | failFirst (n : Nat)
  /-- Batch answers leave these positions out. -/
  | omit (positions : List Nat)
  /-- A batch that holds one of these positions fails. -/
  | failChunks (positions : List Nat)
  /-- Every call fails with bad credentials. -/
  | failing
  /-- Every call is refused for want of payment. -/
  | paymentRequired
  /-- Every call takes this many milliseconds. -/
  | slow (ms : Nat)
  deriving Repr, DecidableEq, Inhabited

/-- A scripted backend: its behaviour and whether it takes batches. -/
structure Mock where
  behavior : Behavior := .working
  batches : Bool := true
  deriving Repr, DecidableEq, Inhabited

/-- What a scripted backend has seen: the number of calls, and the positions of each batch. -/
structure Tally where
  calls : Nat := 0
  batchCalls : List (List Nat) := []
  deriving Repr, DecidableEq, Inhabited

namespace Mock

/-- The translation of a text. -/
def translated (text target : String) : String := "[" ++ target ++ "] " ++ text

/-- The outcome of the call with the given number (counting from zero), before any answer
is made. -/
def gate (m : Mock) (count : Nat) : Except BackendError Unit :=
  match m.behavior with
  | .failFirst n => if count < n then .error (.connection ("simulated outage (call " ++ toString (count + 1) ++ ")"))
    else .ok ()
  | .failing => .error (.unauthorized "invalid key")
  | .paymentRequired => .error (.refused 402 "payment required")
  | _ => .ok ()

/-- How long every call takes. -/
def delay (m : Mock) : Nat :=
  match m.behavior with
  | .slow ms => ms
  | _ => 0

/-- The answer to a batch that passed the gate: the translations by position, one per
position, the later line winning. -/
def batchAnswer (m : Mock) (items : List (Nat × String)) (target : String) :
    Except BackendError (List (Nat × String)) :=
  match m.behavior with
  | .failChunks ps =>
    if items.any (fun it => ps.contains it.1) then .error (.refused 500 "simulated batch failure")
    else .ok (answerAll [] items)
  | .omit ps => .ok (answerAll ps items)
  | _ => .ok (answerAll [] items)
where
  answerAll (left : List Nat) (items : List (Nat × String)) : List (Nat × String) :=
    let kept := items.filter fun it => !left.contains it.1
    let lasts := kept.foldl (fun acc it => (acc.filter (·.1 != it.1)) ++ [(it.1, translated it.2 target)]) []
    lasts.mergeSort fun a b => a.1 ≤ b.1

end Mock

end SubtitleQueue.Backend
