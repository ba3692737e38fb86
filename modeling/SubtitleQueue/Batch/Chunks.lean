/-!
Splitting a batch into chunks: `parts` chunks of equal size (the last may be short), the size
rounded up so that no more than `parts` chunks are made.
-/

namespace SubtitleQueue.Batch

/-- Consecutive pieces of `size` elements; the last may be shorter. -/
def chunksOf {α : Type} (size : Nat) (xs : List α) : List (List α) :=
  if _h : size = 0 then [xs]
  else match xs with
    | [] => []
    | x :: rest => ((x :: rest).take size) :: chunksOf size ((x :: rest).drop size)
termination_by xs.length
decreasing_by simp; omega

/-- The chunks of a batch split into `parts` (at least one). -/
def split {α : Type} (xs : List α) (parts : Nat) : List (List α) :=
  if xs.isEmpty then [] else
  let n := max parts 1
  chunksOf ((xs.length + n - 1) / n) xs

end SubtitleQueue.Batch
