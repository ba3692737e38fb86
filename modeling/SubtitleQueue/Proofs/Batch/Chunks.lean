import Mathlib
import SubtitleQueue.Proofs.Batch.Fallback

/-!
The shape of a split. Splitting `n` lines into `parts` chunks cuts them into pieces of
`⌈n / parts⌉` lines, so every chunk but the last is full, none is empty, and the number of
chunks is `⌈n / ⌈n / parts⌉⌉`. That number is at most `min parts n`, and can be less: four
lines split into three give two chunks of two.
-/

namespace SubtitleQueue.Batch

/-- Rounding up `n / s` and peeling one `s` off `n` differ by one chunk. -/
theorem ceilDiv_eq_succ {n s : Nat} (hs : 0 < s) (hn : 0 < n) :
    (n + s - 1) / s = (n - s + s - 1) / s + 1 := by
  by_cases hle : n ≤ s
  · have hone : (n + s - 1) / s = 1 := Nat.div_eq_of_lt_le (by omega) (by omega)
    have hzero : (n - s + s - 1) / s = 0 := Nat.div_eq_of_lt (by omega)
    omega
  · rw [show n + s - 1 = (n - s + s - 1) + s by omega, Nat.add_div_right _ hs]

section Chunks

variable {α : Type} {size : Nat}

theorem chunksOf_cons (hs : 0 < size) (x : α) (rest : List α) :
    chunksOf size (x :: rest) = (x :: rest).take size :: chunksOf size ((x :: rest).drop size) := by
  rw [chunksOf, dif_neg (Nat.pos_iff_ne_zero.mp hs)]

/-- Pieces of `size` lines: `⌈n / size⌉` of them. -/
theorem length_chunksOf (hs : 0 < size) (xs : List α) :
    (chunksOf size xs).length = (xs.length + size - 1) / size := by
  fun_induction chunksOf size xs with
  | case1 => omega
  | case2 =>
    simp only [List.length_nil, Nat.zero_add]
    exact (Nat.div_eq_of_lt (by omega)).symm
  | case3 _ x rest ih =>
    rw [List.length_cons, ih, List.length_drop, ceilDiv_eq_succ hs (List.length_pos_of_ne_nil (by simp))]

theorem ne_nil_of_mem_chunksOf (hs : 0 < size) (xs : List α) : ∀ c ∈ chunksOf size xs, c ≠ [] := by
  fun_induction chunksOf size xs with
  | case1 => omega
  | case2 => simp
  | case3 _ x rest ih =>
    intro c hc
    rcases List.mem_cons.mp hc with rfl | hc
    · simp [List.take_eq_nil_iff]
      omega
    · exact ih c hc

/-- Every piece but the last is full. -/
theorem length_of_mem_dropLast_chunksOf (hs : 0 < size) (xs : List α) :
    ∀ c ∈ (chunksOf size xs).dropLast, c.length = size := by
  fun_induction chunksOf size xs with
  | case1 => omega
  | case2 => simp
  | case3 _ x rest ih =>
    intro c hc
    -- a piece with another after it leaves lines over, so it took `size` of them
    cases hmore : chunksOf size ((x :: rest).drop size) with
    | nil => simp [hmore] at hc
    | cons d ds =>
      rw [hmore, List.dropLast_cons_cons, List.mem_cons] at hc
      rcases hc with rfl | hc
      · have hlong : size < (x :: rest).length := by
          by_contra hle
          rw [List.drop_eq_nil_of_le (by omega)] at hmore
          simp [chunksOf, Nat.pos_iff_ne_zero.mp hs] at hmore
        simp only [List.length_take]
        omega
      · exact ih c (hmore ▸ hc)

/-- Every piece has at most `size` lines. -/
theorem length_le_of_mem_chunksOf (hs : 0 < size) (xs : List α) :
    ∀ c ∈ chunksOf size xs, c.length ≤ size := by
  fun_induction chunksOf size xs with
  | case1 => omega
  | case2 => simp
  | case3 _ x rest ih =>
    intro c hc
    rcases List.mem_cons.mp hc with rfl | hc
    · simp
    · exact ih c hc

end Chunks

/-- The number of chunks a split makes is at most the parts asked for and the lines there
are. -/
theorem ceilDiv_ceilDiv_le (n q : Nat) (hq : 0 < q) (hn : 0 < n) :
    (n + (n + q - 1) / q - 1) / ((n + q - 1) / q) ≤ min q n := by
  have hdm := Nat.div_add_mod (n + q - 1) q
  have hmod := Nat.mod_lt (n + q - 1) hq
  have hs : 0 < (n + q - 1) / q := Nat.div_pos (by omega) hq
  generalize (n + q - 1) / q = s at hdm hs ⊢
  -- the chunk size `s` covers the lines in `q` pieces: `n ≤ s * q`
  have hcover : n ≤ s * q := by rw [Nat.mul_comm]; omega
  refine le_min (Nat.lt_succ_iff.mp ((Nat.div_lt_iff_lt_mul hs).mpr ?_))
    (Nat.lt_succ_iff.mp ((Nat.div_lt_iff_lt_mul hs).mpr ?_))
  · rw [Nat.succ_mul, Nat.mul_comm q s]
    omega
  · have := Nat.le_mul_of_pos_right n hs
    rw [Nat.succ_mul]
    omega

/-- Splitting a non-empty batch of `n` lines into `parts` (at least one): the chunks, one
after another, are the lines; none is empty; every chunk but the last holds `⌈n / parts⌉`
lines; and there are `⌈n / ⌈n / parts⌉⌉` chunks, at most `min parts n`. -/
theorem split_shape {α : Type} (xs : List α) (parts : Nat) (hxs : xs ≠ []) :
    (split xs parts).flatten = xs ∧ (∀ c ∈ split xs parts, c ≠ []) ∧
      (∀ c ∈ (split xs parts).dropLast,
        c.length = (xs.length + max parts 1 - 1) / max parts 1) ∧
      (split xs parts).length =
        (xs.length + (xs.length + max parts 1 - 1) / max parts 1 - 1) /
          ((xs.length + max parts 1 - 1) / max parts 1) ∧
      (split xs parts).length ≤ min (max parts 1) xs.length := by
  have hn : 0 < xs.length := List.length_pos_of_ne_nil hxs
  have hq : 0 < max parts 1 := by omega
  have hs : 0 < (xs.length + max parts 1 - 1) / max parts 1 := Nat.div_pos (by omega) hq
  have hsplit : split xs parts = chunksOf ((xs.length + max parts 1 - 1) / max parts 1) xs := by
    simp [split, List.isEmpty_iff, hxs]
  have hlen := length_chunksOf hs xs
  refine ⟨flatten_split xs parts, ?_, ?_, ?_, ?_⟩
  · rw [hsplit]; exact ne_nil_of_mem_chunksOf hs xs
  · rw [hsplit]; exact length_of_mem_dropLast_chunksOf hs xs
  · rw [hsplit, hlen]
  · rw [hsplit, hlen]; exact ceilDiv_ceilDiv_le _ _ hq hn

/-- Ten lines in three parts: chunks of four, four and two. -/
theorem split_shape_ten_lines :
    List.range 10 ≠ [] ∧ (split (List.range 10) 3).flatten = List.range 10 ∧
      (∀ c ∈ split (List.range 10) 3, c ≠ []) ∧
      (∀ c ∈ (split (List.range 10) 3).dropLast,
        c.length = ((List.range 10).length + max 3 1 - 1) / max 3 1) ∧
      (split (List.range 10) 3).length =
        ((List.range 10).length + ((List.range 10).length + max 3 1 - 1) / max 3 1 - 1) /
          (((List.range 10).length + max 3 1 - 1) / max 3 1) ∧
      (split (List.range 10) 3).length ≤ min (max 3 1) (List.range 10).length :=
  ⟨by decide, split_shape (List.range 10) 3 (by decide)⟩

/-- Four lines split into three parts give two chunks of two, not three chunks: the count a
level's warning announces for the next level, `min 3 4`, is one more than that level sends. -/
theorem split_four_lines_in_two_chunks :
    split (List.range 4) 3 = [[0, 1], [2, 3]] ∧ (split (List.range 4) 3).length ≠ min 3 4 := by
  have h : split (List.range 4) 3 = [[0, 1], [2, 3]] := by
    simp [split, chunksOf_cons, List.range_succ]
    simp [chunksOf]
  exact ⟨h, by rw [h]; decide⟩

end SubtitleQueue.Batch
