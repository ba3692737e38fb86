import SubtitleQueue.Repair.Window
import SubtitleQueue.Batch.Fallback

/-!
Running a repair. The lines of the plan are sent in chunks of the batch size, and only the
chunks that still hold a missing line; each chunk goes through the batch translator without
context, and only the translations of missing lines are kept. Passes repeat up to the retry
budget while lines are missing; in the end every failed line is recovered, or the error
names how many are not and shows the first few. What the repair does around it, asking
whether the job was stopped, translating a chunk and writing its lines, are `Effects`.
-/

namespace SubtitleQueue.Repair

open Batch Backend Log

/-- How many failed lines an error shows. -/
def exampleCount : Nat := 3

/-- What a repair needs from where it runs: whether the job was stopped, how a chunk is
translated, and where its lines go, the request's log (`say`) and the service's (`note`). -/
structure Effects (m : Type → Type) where
  cancelled : m Bool
  translate : List Item → m (Except JobError Translations)
  say : Level → String → m Unit
  note : Level → String → m Unit

/-- What the answer for a chunk gives the repair: its translations, also those a batch that
ran out of splits still made; any other failure ends the repair. -/
def harvest : Except JobError Translations → Except JobError Translations
  | .ok m => .ok m
  | .error (.batchExhausted _ _ done) => .ok done
  | .error e => .error e

/-- Takes a translation when its position is still missing. -/
def adopt (acc : Translations × List Nat) (pt : Nat × String) : Translations × List Nat :=
  if acc.2.contains pt.1 then (acc.1.put pt.1 pt.2, acc.2.erase pt.1) else acc

section Passes

variable {m : Type → Type} [Monad m]

/-- Sends the chunks of one pass; returns what was recovered and what is still missing. -/
def pass (e : Effects m) :
    List (List Item) → Translations → List Nat → m (Except JobError (Translations × List Nat))
  | [], got, missing => return .ok (got, missing)
  | chunk :: rest, got, missing => do
    if !chunk.any (fun it => missing.contains it.1) then pass e rest got missing
    else
      if ← e.cancelled then return .error .cancelled
      match harvest (← e.translate chunk) with
      | .error err => return .error err
      | .ok answer =>
        let acc := answer.foldl adopt (got, missing)
        pass e rest acc.1 acc.2

/-- Runs passes `p` onwards; `left` counts the passes still allowed. -/
def passes (e : Effects m) (chunks : List (List Item)) :
    Nat → Nat → Translations → List Nat → m (Except JobError (Translations × List Nat))
  | 0, _, got, missing => return .ok (got, missing)
  | left + 1, p, got, missing => do
    if missing.isEmpty then return .ok (got, missing)
    match ← pass e chunks got missing with
    | .error err => return .error err
    | .ok (got, missing) =>
      if !missing.isEmpty then
        e.say .warn ("Repair pass " ++ toString p ++ " left " ++ toString missing.length ++
          " line(s) untranslated")
      passes e chunks left (p + 1) got missing

/-- Repairs the failed lines of a plan. The passes allowed are one more than `maxRetries`,
counted in a 64-bit word. -/
def repair (e : Effects m) (plan : Plan) (maxBatch maxRetries : Nat) :
    m (Except JobError Translations) := do
  let missing := plan.failed.map (·.position)
  e.say .info ("Repairing " ++ toString missing.length ++ " line(s) with " ++
    toString (plan.items.length - missing.length) ++ " item(s) of context in " ++
    toString plan.ranges.length ++ " range(s)")
  let chunks := chunksOf (Nat.max maxBatch 1) plan.items
  match ← passes e chunks ((maxRetries + 1) % Nat.pow 2 64) 1 [] missing with
  | .error err => return .error err
  | .ok (got, []) =>
    e.note .info ("Deferred repair recovered " ++ toString got.length ++ " line(s)")
    return .ok got
  | .ok (_, missing) =>
    let examples := ((missing.mergeSort (· ≤ ·)).filterMap fun p =>
      (plan.failed.find? (·.position == p)).map (·.text)).take exampleCount
    e.say .error ("Repair failed for " ++ toString missing.length ++ " line(s)")
    return .error (.repairFailed missing.length examples)

end Passes

/-- The effects of a repair inside a job: the job's token, the batch translator, the request's
log and the service's. -/
def jobEffects (tr : Translator) (cancel : Nat) (log : Capture) : Effects Run where
  cancelled := Run.isCancelled cancel
  translate chunk := tr.translate chunk [] [] cancel log
  say := log.say
  note := Run.note

/-- Repairs the failed lines of a plan inside a job. -/
def execute (plan : Plan) (tr : Translator) (maxBatch maxRetries : Nat) (cancel : Nat) (log : Capture) :
    Run (Except JobError Translations) :=
  repair (jobEffects tr cancel log) plan maxBatch maxRetries

end SubtitleQueue.Repair
