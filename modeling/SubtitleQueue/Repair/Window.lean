import SubtitleQueue.Batch.Envelope

/-!
Context windows for repairing failed lines. Each failed position takes `radius` neighbours
on either side, clipped to the last position; windows that overlap or touch are merged, so
shared context is sent once. Positions are 64-bit words, and sums past the top wrap around.
-/

namespace SubtitleQueue.Repair

/-- A sum of two positions as 64-bit words add. -/
def wordAdd (a b : Nat) : Nat := (a + b) % Nat.pow 2 64

/-- Merges sorted windows that overlap or touch. -/
def mergeSorted : List (Nat × Nat) → List (Nat × Nat) → List (Nat × Nat)
  | acc, [] => acc.reverse
  | (s, e) :: acc, (s', e') :: rest =>
    if s' ≤ wordAdd e 1 then mergeSorted ((s, max e e') :: acc) rest
    else mergeSorted ((s', e') :: (s, e) :: acc) rest
  | [], w :: rest => mergeSorted [w] rest

/-- The merged windows around positions up to `last`. -/
def mergeRanges (positions : List Nat) (radius last : Nat) : List (Nat × Nat) :=
  let windows := (positions.filter (· ≤ last)).map fun p => (p - radius, min (wordAdd p radius) last)
  mergeSorted [] (windows.mergeSort (fun a b => a.1 < b.1 || (a.1 == b.1 && a.2 ≤ b.2)))

/-- A line that failed: its position, its source text, and the batch it was in. -/
structure FailedLine where
  position : Nat
  text : String
  batchIndex : Nat
  deriving Repr, DecidableEq, Inhabited

/-- What a repair sends: the failed lines by position, the windows, and the lines inside them. -/
structure Plan where
  failed : List FailedLine
  ranges : List (Nat × Nat)
  items : List Batch.Item
  deriving Repr, Inhabited

/-- One failed line per position, the later of two with the same position, ordered by
position. -/
def byPosition (failed : List FailedLine) : List FailedLine :=
  let positions := (failed.map (·.position)).eraseDups.mergeSort (· ≤ ·)
  positions.filterMap fun p => failed.reverse.find? (·.position == p)

/-- The repair plan: windows around the failed positions, and the lines of the job inside a
window, each position once (the first line given for it), ordered by position. -/
def plan (failed : List FailedLine) (all : List Batch.Item) (radius : Nat) : Plan :=
  let failed := byPosition failed
  match (all.map (·.1)).max? with
  | none => { failed, ranges := [], items := [] }
  | some last =>
    let ranges := mergeRanges (failed.map (·.position)) radius last
    let inside := all.filter fun (p, _) => ranges.any fun (s, e) => s ≤ p && p ≤ e
    let firsts := inside.foldl (fun acc it => if acc.any (·.1 == it.1) then acc else acc ++ [it]) []
    { failed, ranges, items := firsts.mergeSort (fun a b => a.1 ≤ b.1) }

end SubtitleQueue.Repair
