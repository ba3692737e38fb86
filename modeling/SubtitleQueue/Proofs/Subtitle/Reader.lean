import SubtitleQueue.Proofs.Subtitle.Timing

/-!
The SubRip reader one line at a time. A blank line closes a block; inside a block a number, a
timing and text lines are taken in that order. Two rules hold between any two lines: text is
gathered only under a timing, and a timing is read only under a number. From a state where no
block is open, a well-formed block gives its own cue and closes, and a block whose last line
holds no timing gives at most one cue and closes as well.
-/

namespace SubtitleQueue.Subtitle

open Text

/-- The cue a block of lines stands for: a line that reads as a number, a line that holds a
timing ending after it starts, and one or more lines of text, each line read without the
blanks at its ends. -/
def blockCue? : List String → Option Cue
  | n :: t :: x :: xs =>
    match parseUnsigned (trim n), findTiming (trim t).toList with
    | some k, some (a, b) =>
      if a < b then some ⟨k, a, b, "\n".intercalate ((x :: xs).map trim)⟩ else none
    | _, _ => none
  | _ => none

theorem intercalate_concat (ts : List String) (u : String) :
    "\n".intercalate (ts ++ [u]) = if ts = [] then u else "\n".intercalate ts ++ "\n" ++ u := by
  split
  · rename_i h
    simp [h]
  · rename_i h
    rw [String.intercalate_append_of_ne_nil h (List.cons_ne_nil _ _), String.intercalate_singleton]

/-- The text gathered so far takes one more line. -/
theorem gather_eq {ts : List String} (hts : ∀ t ∈ ts, t ≠ "") (u : String) :
    (if ("\n".intercalate ts).isEmpty then u else "\n".intercalate ts ++ "\n" ++ u) =
      "\n".intercalate (ts ++ [u]) := by
  rw [intercalate_concat]
  rcases ts with _ | ⟨t, ts⟩
  · simp
  · have := intercalate_ne_empty ts (hts t List.mem_cons_self)
    simp [String.isEmpty_iff, this]

namespace Reader

/-- The rules the reader keeps between lines. -/
structure Sound (r : Reader) : Prop where
  timing_of_text : r.text ≠ "" → r.timing ≠ none
  seq_of_timing : r.timing ≠ none → r.seq ≠ none

/-- No block is open: no timing read and no text gathered. -/
def Idle (r : Reader) : Prop := r.timing = none ∧ r.text = ""

theorem Idle.sound {r : Reader} (h : Idle r) : Sound r :=
  ⟨fun ht => absurd h.2 ht, fun ht => absurd h.1 ht⟩

theorem idle_empty : Idle {} := ⟨rfl, rfl⟩

/-- Closing a block leaves no block open and adds at most one cue. -/
theorem flush_spec (r : Reader) : Idle r.flush ∧ r.flush.seq = none ∧
    (r.flush.done = r.done ∨ ∃ c, r.flush.done = c :: r.done) := by
  unfold flush
  split
  · split
    · exact ⟨⟨rfl, rfl⟩, rfl, .inr ⟨_, rfl⟩⟩
    · exact ⟨⟨rfl, rfl⟩, rfl, .inl rfl⟩
  · exact ⟨⟨rfl, rfl⟩, rfl, .inl rfl⟩

theorem step_congr {r : Reader} {l l' : String} (h : trim l = trim l') : r.step l = r.step l' := by
  simp only [step, h]

theorem foldl_step_congr {xs ys : List String} (h : xs.map trim = ys.map trim) (r : Reader) :
    xs.foldl step r = ys.foldl step r := by
  induction xs generalizing ys r with
  | nil => cases ys <;> simp_all
  | cons x xs ih =>
    cases ys with
    | nil => simp at h
    | cons y ys =>
      simp only [List.map_cons, List.cons.injEq] at h
      simp only [List.foldl_cons, step_congr h.1]
      exact ih h.2 _

/-- A blank line closes the open block, as the end of the text does. -/
theorem step_blank {r : Reader} {l : String} (h : trim l = "") : r.step l = r.finish := by
  simp [step, finish, h]

theorem finish_of_timing {r : Reader} (h : r.timing = none) : r.finish = r := by
  simp [finish, h]

theorem finish_eq (r : Reader) : r.finish = r ∨ r.finish = r.flush := by
  unfold finish
  split
  · exact .inr rfl
  · exact .inl rfl

theorem finish_finish (r : Reader) : r.finish.finish = r.finish := by
  rcases finish_eq r with h | h <;> rw [h]
  · exact h
  · exact finish_of_timing (flush_spec r).1.1

/-- What one line can do to the reader. -/
theorem step_cases (r : Reader) (l : String) :
    (trim l = "" ∧ r.step l = r.finish) ∨
    (trim l ≠ "" ∧ ∃ n, r.seq = none ∧ r.text = "" ∧ r.step l = { r with seq := some n }) ∨
    (trim l ≠ "" ∧ ∃ tm, r.seq ≠ none ∧ r.timing = none ∧ findTiming (trim l).toList = some tm ∧
      r.step l = { r with timing := some tm }) ∨
    (trim l ≠ "" ∧ r.timing ≠ none ∧
      r.step l = { r with text := if r.text.isEmpty then trim l else r.text ++ "\n" ++ trim l }) ∨
    (trim l ≠ "" ∧ r.timing = none ∧ r.step l = r) := by
  by_cases hb : trim l = ""
  · exact .inl ⟨hb, step_blank hb⟩
  have hb' : (trim l).isEmpty = false := by simpa [String.isEmpty_iff] using hb
  unfold step
  simp only [hb', Bool.false_eq_true, ↓reduceIte]
  split
  · rename_i n hn
    split at hn
    · rename_i hc
      simp only [Bool.and_eq_true, Option.isNone_iff_eq_none, String.isEmpty_iff] at hc
      exact .inr (.inl ⟨hb, n, hc.1, hc.2, rfl⟩)
    · simp at hn
  · split
    · rename_i tm htm
      split at htm
      · rename_i hc
        simp only [Bool.and_eq_true, Option.isSome_iff_ne_none, Option.isNone_iff_eq_none] at hc
        exact .inr (.inr (.inl ⟨hb, tm, hc.1, hc.2, htm, rfl⟩))
      · simp at htm
    · split
      · rename_i ht
        exact .inr (.inr (.inr (.inl ⟨hb, Option.isSome_iff_ne_none.1 ht, rfl⟩)))
      · rename_i ht
        exact .inr (.inr (.inr (.inr ⟨hb, by simpa using ht, rfl⟩)))

theorem sound_step {r : Reader} (h : Sound r) (l : String) : Sound (r.step l) := by
  rcases step_cases r l with ⟨-, hs⟩ | ⟨-, n, hn, htx, hs⟩ | ⟨-, tm, hn, -, -, hs⟩ |
      ⟨-, ht, hs⟩ | ⟨-, -, hs⟩ <;> rw [hs]
  · unfold finish
    split
    · exact (flush_spec r).1.sound
    · exact h
  · exact ⟨fun hx => absurd htx hx, fun _ => by simp⟩
  · exact ⟨fun _ => by simp, fun _ => hn⟩
  · exact ⟨fun _ => ht, h.seq_of_timing⟩
  · exact h

theorem sound_foldl {r : Reader} (h : Sound r) (xs : List String) : Sound (xs.foldl step r) := by
  induction xs generalizing r with
  | nil => exact h
  | cons x xs ih => exact ih (sound_step h x)

/-- A line that is not blank closes nothing. -/
theorem step_done {r : Reader} {l : String} (hl : trim l ≠ "") :
    (r.step l).done = r.done := by
  rcases step_cases r l with ⟨hb, -⟩ | ⟨-, n, -, -, hs⟩ | ⟨-, tm, -, -, -, hs⟩ | ⟨-, -, hs⟩ |
      ⟨-, -, hs⟩
  · exact absurd hb hl
  all_goals rw [hs]

theorem foldl_done {r : Reader} {xs : List String} (h : ∀ l ∈ xs, trim l ≠ "") :
    (xs.foldl step r).done = r.done := by
  induction xs generalizing r with
  | nil => rfl
  | cons x xs ih =>
    rw [List.foldl_cons, ih (fun l hl => h l (List.mem_cons_of_mem x hl)),
      step_done (h x List.mem_cons_self)]

/-- After a line without a timing, no block waits for its text. -/
theorem step_settled {r : Reader} (h : Sound r) {l : String} (hl : trim l ≠ "")
    (hf : findTiming (trim l).toList = none) :
    (r.step l).timing = none ∨ (r.step l).text ≠ "" := by
  rcases step_cases r l with ⟨hb, -⟩ | ⟨-, n, hn, -, hs⟩ | ⟨-, tm, -, -, htm, -⟩ | ⟨-, -, hs⟩ |
      ⟨-, ht, hs⟩
  · exact absurd hb hl
  · rw [hs]
    exact .inl (by_contra fun ht => h.seq_of_timing ht hn)
  · rw [hf] at htm
    cases htm
  · rw [hs]
    refine .inr ?_
    split
    · exact hl
    · intro he
      have := congrArg String.length he
      simp at this
  · rw [hs]
    exact .inl ht

/-- Closing a block that waits for nothing leaves no block open and adds at most one cue. -/
theorem finish_settled {r : Reader} (h : Sound r) (hs : r.timing = none ∨ r.text ≠ "") :
    Idle r.finish ∧ (r.finish.done = r.done ∨ ∃ c, r.finish.done = c :: r.done) := by
  by_cases ht : r.timing = none
  · rw [finish_of_timing ht]
    exact ⟨⟨ht, by_contra fun hx => h.timing_of_text hx ht⟩, .inl rfl⟩
  · have hx : r.text ≠ "" := hs.resolve_left ht
    have hf : r.finish = r.flush := by
      simp [finish, Option.isSome_iff_ne_none.2 ht, hx]
    rw [hf]
    exact ⟨(flush_spec r).1, (flush_spec r).2.2⟩

theorem trim_ne_of_parseUnsigned {l : String} {k : Nat} (h : parseUnsigned (trim l) = some k) :
    trim l ≠ "" := by
  intro he
  rw [he] at h
  cases h

theorem trim_ne_of_findTiming {l : String} {tm : Nat × Nat} (h : findTiming (trim l).toList = some tm) :
    trim l ≠ "" := by
  intro he
  rw [he] at h
  cases h

/-- A number read from a closed state opens a block, unless one is open already. -/
theorem step_number {r : Reader} (hr : Idle r) {l : String} {k : Nat}
    (h : parseUnsigned (trim l) = some k) :
    r.step l = if r.seq = none then { r with seq := some k } else r := by
  have hb : (trim l).isEmpty = false := by
    simpa [String.isEmpty_iff] using trim_ne_of_parseUnsigned h
  have hf := findTiming_eq_none_of_colon (colon_not_mem_of_parseUnsigned h)
  cases hs : r.seq <;> simp [step, hb, hs, hr.1, hr.2, h, hf]

/-- A timing read under a number and no timing yet. -/
theorem step_timing {r : Reader} (hs : r.seq ≠ none) (ht : r.timing = none) {l : String}
    {tm : Nat × Nat} (h : findTiming (trim l).toList = some tm) :
    r.step l = { r with timing := some tm } := by
  have hb : (trim l).isEmpty = false := by
    simpa [String.isEmpty_iff] using trim_ne_of_findTiming h
  obtain ⟨k, hk⟩ := Option.ne_none_iff_exists'.1 hs
  simp [step, hb, hk, ht, h]

/-- A line under a timing is text. -/
theorem step_text {r : Reader} (hs : r.seq ≠ none) (ht : r.timing ≠ none) {l : String} (hl : trim l ≠ "") :
    r.step l = { r with text := if r.text.isEmpty then trim l else r.text ++ "\n" ++ trim l } := by
  rcases step_cases r l with ⟨hb, -⟩ | ⟨-, n, hn, -, -⟩ | ⟨-, tm, -, hn, -, -⟩ | ⟨-, -, hs⟩ |
      ⟨-, hn, -⟩
  · exact absurd hb hl
  · exact absurd hn hs
  · exact absurd hn ht
  · exact hs
  · exact absurd hn ht

/-- Text lines under a timing are gathered one after another, each trimmed. -/
theorem foldl_text {r : Reader} (hs : r.seq ≠ none) (ht : r.timing ≠ none) {ts : List String}
    (htx : r.text = "\n".intercalate ts) (hts : ∀ t ∈ ts, t ≠ "") {xs : List String}
    (hxs : ∀ l ∈ xs, trim l ≠ "") :
    xs.foldl step r = { r with text := "\n".intercalate (ts ++ xs.map trim) } := by
  induction xs generalizing r ts with
  | nil => simp [← htx]
  | cons x xs ih =>
    have hx := hxs x List.mem_cons_self
    rw [List.foldl_cons, step_text hs ht hx, htx, gather_eq hts]
    rw [@ih { r with text := "\n".intercalate (ts ++ [trim x]) } hs ht (ts ++ [trim x]) rfl ?_
      (fun l hl => hxs l (List.mem_cons_of_mem x hl))]
    · simp
    · intro t ht'
      rcases List.mem_append.1 ht' with h | h
      · exact hts t h
      · rw [List.mem_singleton.1 h]
        exact hx

/-- Closing a block with a number, a timing that ends after it starts and trimmed text gives
its cue. -/
theorem finish_block {r : Reader} {k a b : Nat} (hk : r.seq = some k) (ht : r.timing = some (a, b))
    (hab : a < b) (htx : trim r.text = r.text) (hne : r.text ≠ "") :
    r.finish = { done := ⟨k, a, b, r.text⟩ :: r.done, skipped := r.skipped } := by
  have hne' : r.text.isEmpty = false := by simpa [String.isEmpty_iff] using hne
  have hmake : Cue.make k a b r.text = .ok ⟨k, a, b, r.text⟩ := by
    simp [Cue.make, Nat.not_le.2 hab, htx, hne']
  simp [finish, flush, hk, ht, hne', hmake]

theorem step_seq_of_number {r : Reader} (hr : Idle r) {l : String} {k : Nat}
    (h : parseUnsigned (trim l) = some k) : ∃ j, r.step l = { r with seq := some j } := by
  rw [step_number hr h]
  cases hs : r.seq with
  | none => exact ⟨k, by simp⟩
  | some j => exact ⟨j, by cases r; simp_all⟩

/-- From a closed state a well-formed block gives its cue and closes; the cue keeps the number
the block gives, or one still held from before. -/
theorem foldl_block {r : Reader} (hr : Idle r) {B : List String} {c : Cue}
    (hB : blockCue? B = some c) (hne : ∀ l ∈ B, trim l ≠ "") :
    ∃ k, (B.foldl step r).finish = { done := { c with seq := k } :: r.done, skipped := r.skipped } := by
  obtain _ | ⟨n, _ | ⟨t, _ | ⟨x, xs⟩⟩⟩ := B <;> simp only [blockCue?, reduceCtorEq] at hB
  split at hB
  · rename_i k0 a b hk0 hab
    split at hB
    · rename_i hlt
      cases hB
      obtain ⟨k, hk⟩ := step_seq_of_number hr hk0
      have hxs : ∀ l ∈ x :: xs, trim l ≠ "" := fun l hl => hne l (by simp [hl])
      have htxt : ∀ u ∈ (x :: xs).map trim, trim u = u ∧ u ≠ "" := by
        intro u hu
        obtain ⟨l, hl, rfl⟩ := List.mem_map.1 hu
        exact ⟨trim_trim l, hxs l hl⟩
      refine ⟨k, ?_⟩
      rw [List.foldl_cons, List.foldl_cons, hk,
        @step_timing { r with seq := some k } (by simp) hr.1 _ _ hab,
        @foldl_text _ (by simp) (by simp) [] (by simp [hr.2]) (by simp) _ hxs]
      exact finish_block rfl rfl hlt (trim_intercalate htxt)
        (intercalate_ne_empty _ (hxs x List.mem_cons_self))
    · cases hB
  · cases hB

/-- From a closed state a block whose last line holds no timing closes again and adds at most
one cue. -/
theorem foldl_settled {r : Reader} (hr : Idle r) {xs : List String} (hne : ∀ l ∈ xs, trim l ≠ "")
    (hlast : ∀ l ∈ xs.getLast?, findTiming (trim l).toList = none) :
    Idle (xs.foldl step r).finish ∧
      ((xs.foldl step r).finish.done = r.done ∨ ∃ c, (xs.foldl step r).finish.done = c :: r.done) := by
  rcases List.eq_nil_or_concat xs with rfl | ⟨ys, y, rfl⟩
  · rw [List.foldl_nil, finish_of_timing hr.1]
    exact ⟨hr, .inl rfl⟩
  · have hy : trim y ≠ "" := hne y (by simp)
    have hys : ∀ l ∈ ys, trim l ≠ "" := fun l hl => hne l (by simp [hl])
    have hsound := sound_foldl hr.sound ys
    rw [List.concat_eq_append, List.foldl_concat]
    obtain ⟨hidle, hdone⟩ :=
      finish_settled (sound_step hsound y) (step_settled hsound hy (hlast y (by simp)))
    rw [step_done hy, foldl_done hys] at hdone
    exact ⟨hidle, hdone⟩

/-- Blocks joined by empty lines are read one after another, each closed at its end. -/
theorem foldl_intercalate (r : Reader) {bs : List (List String)} (hbs : bs ≠ []) :
    ((List.intercalate [""] bs).foldl step r).finish =
      bs.foldl (fun r B => (B.foldl step r).finish) r := by
  induction bs generalizing r with
  | nil => exact absurd rfl hbs
  | cons B bs ih =>
    rcases bs with _ | ⟨B', bs⟩
    · simp
    · rw [List.intercalate_cons_cons, List.foldl_append, List.foldl_append, List.foldl_cons,
        List.foldl_nil, step_blank rfl, ih _ (List.cons_ne_nil _ _)]
      rfl

end Reader

end SubtitleQueue.Subtitle
