import SubtitleQueue.Batch.Envelope
import SubtitleQueue.Batch.Chunks
import SubtitleQueue.Repair.Window
import SubtitleQueue.Service.Request
import SubtitleQueue.Service.Reply

/-!
Service answers about batches: their envelope, their chunks and repair windows.
-/

namespace SubtitleQueue.Service

/-- Windows as `[start, end]` pairs. -/
def rangesJson (rs : List (Nat × Nat)) : Json := .list (fun (s, e) => .arr [.nat s, .nat e]) rs

/-- A failed line `[position, text, batch]`. -/
def failedLine? (j : Json) : Option Repair.FailedLine :=
  match j with
  | .arr [p, t, b] => do pure { position := ← p.nat?, text := ← t.str?, batchIndex := ← b.nat? }
  | _ => none

/-- A failed line as `[position, text, batch]`. -/
def failedLineJson (f : Repair.FailedLine) : Json := .arr [.nat f.position, .str f.text, .nat f.batchIndex]

/-- A repair plan as JSON. -/
def planJson (p : Repair.Plan) : Json :=
  .obj [("failed", .list failedLineJson p.failed), ("ranges", rangesJson p.ranges),
    ("items", itemsJson p.items), ("empty", .bool p.failed.isEmpty)]

/-- Merged context windows. -/
def mergeRangesReply (j : Json) : Decode Json := do
  let ps ← listD j "positions" Json.nat?
  let r ← natural j "radius"
  let last ← natural j "last"
  pure (.obj [("ranges", rangesJson (Repair.mergeRanges ps r last))])

/-- A repair plan. -/
def repairPlanReply (j : Json) : Decode Json := do
  let failed ← listD j "failed" failedLine?
  let all ← items j "items"
  let r ← naturalD j "radius" 0
  pure (planJson (Repair.plan failed all r))

/-- The positions of each chunk. -/
def splitReply (j : Json) : Decode Json := do
  let xs ← items j "items"
  let parts ← natural j "parts"
  pure (.obj [("chunks", .list (fun c => .list (fun (i : Batch.Item) => .nat i.1) c) (Batch.split xs parts))])

/-- The request text of a batch. -/
def encodeReply (j : Json) : Decode Json := do
  let xs ← items j "items"
  pure (.obj [("text", .str (Batch.encode xs (← texts j "pre") (← texts j "post")))])

/-- The translations read from an answer. -/
def decodeReply (j : Json) : Decode Json := do
  let xs ← items j "items"
  let answer ← text j "response"
  pure (.obj [("translated", itemsJson (Batch.decode answer xs))])

end SubtitleQueue.Service
