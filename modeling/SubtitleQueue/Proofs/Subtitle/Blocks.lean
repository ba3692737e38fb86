import SubtitleQueue.Proofs.Subtitle.Reader

/-!
SubRip text made of blocks of lines with an empty line between two blocks. Read from a closed
state, a well-formed block gives exactly its own cue and a block whose last line holds no timing
closes again, so no block reaches into the next one. Such a block may still give a cue of its
own, from a number, a timing and text that follow some stray lines.
-/

namespace SubtitleQueue.Subtitle

open Text Reader

/-! ### Numbering -/

/-- A cue with its number forgotten: reading numbers the cues afresh. -/
def Cue.unnumbered (c : Cue) : Cue := { c with seq := 0 }

@[simp] theorem Cue.unnumbered_seq (c : Cue) (k : Nat) :
    ({ c with seq := k } : Cue).unnumbered = c.unnumbered := rfl

theorem renumber_unnumbered (cs : List Cue) : renumber (cs.map Cue.unnumbered) = renumber cs := by
  simp [renumber, List.zipIdx_map, Cue.unnumbered]

theorem sortByStart_unnumbered (cs : List Cue) :
    sortByStart (cs.map Cue.unnumbered) = (sortByStart cs).map Cue.unnumbered := by
  unfold sortByStart
  refine (List.map_mergeSort ?_).symm
  intros
  rfl

/-- Cues that differ only in their numbers come out the same. -/
theorem renumber_sortByStart_congr {cs ds : List Cue}
    (h : cs.map Cue.unnumbered = ds.map Cue.unnumbered) :
    renumber (sortByStart cs) = renumber (sortByStart ds) := by
  rw [← renumber_unnumbered, ← sortByStart_unnumbered, h, sortByStart_unnumbered,
    renumber_unnumbered]

/-! ### Lines and blocks -/

theorem parse_eq (s : String) :
    parse s = renumber (sortByStart
      ((lines (dropMarks s)).foldl step {}).finish.done.reverse) := rfl

theorem parse_mark_append (s : String) : parse ("\uFEFF" ++ s) = parse s := by
  simp only [parse_eq, dropMarks_mark_append]

/-- Reading the lines of a text joined at line feeds reads the lines themselves. -/
theorem finish_foldl_lines (r : Reader) {xs : List String} (h : ∀ x ∈ xs, '\n' ∉ x.toList) :
    ((lines ("\n".intercalate xs)).foldl step r).finish = (xs.foldl step r).finish := by
  rw [foldl_step_congr (lines_map_trim _), rawLines_intercalate h]
  split
  · rename_i hl
    conv_rhs => rw [← List.dropLast_append_getLast? "" hl]
    rw [List.foldl_concat, step_blank rfl, finish_finish]
  · rfl

theorem mem_intercalate_blank {x : String} :
    ∀ {bs : List (List String)}, x ∈ List.intercalate [""] bs → x = "" ∨ ∃ B ∈ bs, x ∈ B
  | [], h => by simp at h
  | [B], h => .inr ⟨B, List.mem_singleton_self B, by simpa using h⟩
  | B :: B' :: bs, h => by
    rw [List.intercalate_cons_cons] at h
    rcases List.mem_append.1 h with h | h
    · rcases List.mem_append.1 h with h | h
      · exact .inr ⟨B, List.mem_cons_self, h⟩
      · exact .inl (List.mem_singleton.1 h)
    · rcases mem_intercalate_blank h with h | ⟨B'', hB, hx⟩
      · exact .inl h
      · exact .inr ⟨B'', List.mem_cons_of_mem B hB, hx⟩

/-- One block from a closed state: its own cue if it is well formed, and at most one cue if its
last line holds no timing; either way the reader is closed again. -/
theorem foldl_one_block {r : Reader} (hr : Idle r) {B : List String} (hne : ∀ l ∈ B, trim l ≠ "")
    (hlast : blockCue? B = none → ∀ l ∈ B.getLast?, findTiming (trim l).toList = none) :
    ∃ o : Option Cue, (∀ c ∈ blockCue? B, o = some c) ∧ Idle (B.foldl step r).finish ∧
      (B.foldl step r).finish.done.map Cue.unnumbered = (o.toList ++ r.done).map Cue.unnumbered := by
  cases hB : blockCue? B with
  | some c =>
    obtain ⟨k, hk⟩ := foldl_block hr hB hne
    refine ⟨some c, fun c' hc' => by cases hc'; rfl, ?_, ?_⟩ <;> rw [hk]
    · exact ⟨rfl, rfl⟩
    · simp
  | none =>
    obtain ⟨hidle, hdone | ⟨c, hdone⟩⟩ := foldl_settled hr hne (hlast hB)
    · exact ⟨none, by simp, hidle, by simp [hdone]⟩
    · exact ⟨some c, by simp, hidle, by simp [hdone]⟩

/-- Blocks read one after another from a closed state, each closed at its end: every
well-formed block gives its own cue, every other block at most one. -/
theorem foldl_blocks {r : Reader} (hr : Idle r) {bs : List (List String)}
    (hne : ∀ B ∈ bs, ∀ l ∈ B, trim l ≠ "")
    (hlast : ∀ B ∈ bs, blockCue? B = none → ∀ l ∈ B.getLast?, findTiming (trim l).toList = none) :
    ∃ got : List (Option Cue), List.Forall₂ (fun B o => ∀ c ∈ blockCue? B, o = some c) bs got ∧
      Idle (bs.foldl (fun r B => (B.foldl step r).finish) r) ∧
      (bs.foldl (fun r B => (B.foldl step r).finish) r).done.map Cue.unnumbered =
        ((got.filterMap id).reverse ++ r.done).map Cue.unnumbered := by
  induction bs generalizing r with
  | nil => exact ⟨[], .nil, hr, rfl⟩
  | cons B bs ih =>
    obtain ⟨o, ho, hidle, hdone⟩ :=
      foldl_one_block hr (hne B List.mem_cons_self) (hlast B List.mem_cons_self)
    obtain ⟨got, hgot, hidle', hdone'⟩ := ih hidle (fun B' h => hne B' (List.mem_cons_of_mem B h))
      (fun B' h => hlast B' (List.mem_cons_of_mem B h))
    refine ⟨o :: got, .cons ho hgot, hidle', ?_⟩
    rw [List.foldl_cons, hdone', List.map_append, hdone]
    cases o <;> simp

/-! ### The first block -/

theorem head_of_parseUnsigned {s : String} {n : Nat} (h : parseUnsigned s = some n) :
    ∀ c ∈ s.toList.head?, c = '+' ∨ c.isDigit = true := by
  simp only [parseUnsigned] at h
  split at h
  · rename_i m hm
    rcases hs : s.toList with _ | ⟨c, cs⟩
    · simp
    · rw [hs] at hm
      intro d hd
      cases hd
      by_cases hplus : c = '+'
      · exact .inl hplus
      · refine .inr (isDigit_of_digitsValue hm c ?_)
        split <;> simp_all
  · simp at h

/-- A line that starts with a character other than a blank keeps it at the front when trimmed. -/
theorem head_trim {s : String} {c : Char} (h : s.toList.head? = some c) (hc : isBlank c = false) :
    (trim s).toList.head? = some c := by
  obtain ⟨pre, suf, hs, hpre, hsuf⟩ := trim_split s
  rcases pre with _ | ⟨p, pre⟩
  · rcases ht : (trim s).toList with _ | ⟨d, m⟩
    · rw [ht] at hs
      simp only [hs, List.nil_append, List.append_nil] at h
      have := hsuf c (List.mem_of_head? h)
      simp [hc] at this
    · rw [ht] at hs
      simpa [hs] using h
  · simp only [hs, List.cons_append, List.head?_cons, Option.some.injEq] at h
    have := hpre p List.mem_cons_self
    rw [h, hc] at this
    cases this

/-- A line that reads as a number starts with no byte order mark. -/
theorem dropMarks_of_parseUnsigned {l : String} {k : Nat} (h : parseUnsigned (trim l) = some k) :
    dropMarks l = l := by
  apply dropMarks_of_head
  intro hm
  rcases head_of_parseUnsigned h _ (head_trim hm (by decide)) with h | h <;> revert h <;> decide

theorem isSuffix_dropMarks (l : String) : (dropMarks l).toList <:+ l.toList := by
  simpa [dropMarks] using List.dropWhile_suffix _

theorem blockCue?_cons {n : String} {B : List String} {c : Cue} (h : blockCue? (n :: B) = some c) :
    ∃ k, parseUnsigned (trim n) = some k := by
  rcases B with _ | ⟨t, _ | ⟨x, xs⟩⟩ <;> simp only [blockCue?, reduceCtorEq] at h
  split at h
  · rename_i k _ _ hk _
    exact ⟨k, hk⟩
  · cases h

/-- The first block once the byte order marks at the front of the text are dropped: read from
the empty state it reads as a block that is well formed if the first block was, and otherwise
made of non-blank lines and ending in a line without a timing. -/
theorem first_block {B : List String} (hne : ∀ l ∈ B, trim l ≠ "")
    (hlast : blockCue? B = none → ∀ l ∈ B.getLast?, findTiming l.toList = none) :
    ∃ B', (B.modifyHead dropMarks).foldl step {} = B'.foldl step {} ∧ (∀ l ∈ B', trim l ≠ "") ∧
      (blockCue? B' = none → ∀ l ∈ B'.getLast?, findTiming (trim l).toList = none) ∧
      ∀ c ∈ blockCue? B, blockCue? B' = some c := by
  rcases B with _ | ⟨l, B⟩
  · exact ⟨[], rfl, by simp, by simp, by simp [blockCue?]⟩
  cases hB : blockCue? (l :: B) with
  | some c =>
    -- a well-formed block starts with a number, which has no mark in front
    obtain ⟨k, hk⟩ := blockCue?_cons hB
    refine ⟨l :: B, by rw [List.modifyHead_cons, dropMarks_of_parseUnsigned hk], hne, ?_, ?_⟩
    · intro h
      rw [hB] at h
      cases h
    · intro c' hc'
      exact hB.trans hc'
  | none =>
    have hlast' : ∀ x ∈ (l :: B).getLast?, findTiming (trim x).toList = none :=
      fun x hx => findTiming_eq_none_of_isInfix (isInfix_trim x) (hlast hB x hx)
    by_cases hb : trim (dropMarks l) = ""
    · -- a first line of marks and blanks only reads as a blank line
      refine ⟨B, ?_, fun x hx => hne x (List.mem_cons_of_mem l hx), ?_, by simp⟩
      · rw [List.modifyHead_cons, List.foldl_cons, step_blank hb, finish_of_timing rfl]
      · intro _ x hx
        rcases B with _ | ⟨y, B⟩
        · cases hx
        · exact hlast' x (by rwa [List.getLast?_cons_cons])
    · refine ⟨dropMarks l :: B, rfl, ?_, ?_, by simp⟩
      · intro x hx
        rcases List.mem_cons.1 hx with rfl | hx
        · exact hb
        · exact hne x (List.mem_cons_of_mem l hx)
      · intro _ x hx
        rcases B with _ | ⟨y, B⟩
        · -- the one line of the block lost only marks at its front
          rw [List.getLast?_singleton, Option.mem_some_iff] at hx
          subst hx
          exact findTiming_eq_none_of_isInfix
            ((isInfix_trim _).trans (isSuffix_dropMarks l).isInfix) (hlast hB l rfl)
        · exact hlast' x (by rwa [List.getLast?_cons_cons] at hx ⊢)

theorem dropMarks_blockLines (B : List String) (bs : List (List String)) :
    dropMarks ("\n".intercalate (List.intercalate [""] (B :: bs))) =
      "\n".intercalate (List.intercalate [""] (B.modifyHead dropMarks :: bs)) := by
  rcases B with _ | ⟨l, B⟩ <;> rcases bs with _ | ⟨B', bs⟩
  · rfl
  · rw [List.modifyHead_nil, List.intercalate_cons_cons, List.nil_append, List.singleton_append,
      dropMarks_intercalate]
    rfl
  · simp [dropMarks_intercalate]
  · rw [List.intercalate_cons_cons, List.intercalate_cons_cons]
    simp [dropMarks_intercalate]

/-! ### A text of blocks -/

/-- Blocks of lines joined into a text, an empty line between two blocks. -/
def blockText (bs : List (List String)) : String := "\n".intercalate (List.intercalate [""] bs)

/-- A text of blocks, perhaps after a byte order mark, where each block is well formed or ends
in a line that holds no timing, reads as the cue of each well-formed block and at most one cue
for each other block, sorted by start and numbered from one. -/
theorem parse_blockText (bom : Bool) {bs : List (List String)}
    (hne : ∀ B ∈ bs, ∀ l ∈ B, '\n' ∉ l.toList ∧ trim l ≠ "")
    (hlast : ∀ B ∈ bs, blockCue? B = none → ∀ l ∈ B.getLast?, findTiming l.toList = none) :
    ∃ got : List (Option Cue), List.Forall₂ (fun B o => ∀ c ∈ blockCue? B, o = some c) bs got ∧
      parse ((if bom then "\uFEFF" else "") ++ blockText bs) =
        renumber (sortByStart (got.filterMap id)) := by
  have hmark : parse ((if bom then "\uFEFF" else "") ++ blockText bs) = parse (blockText bs) := by
    cases bom
    · exact congrArg parse String.empty_append
    · exact parse_mark_append _
  rw [hmark]
  rcases bs with _ | ⟨B, bs⟩
  · exact ⟨[], .nil, rfl⟩
  obtain ⟨B', hfold, hne', hlast', hwf⟩ :=
    first_block (fun l hl => (hne B List.mem_cons_self l hl).2) (hlast B List.mem_cons_self)
  have hne'' : ∀ C ∈ B' :: bs, ∀ l ∈ C, trim l ≠ "" := by
    intro C hC l hl
    rcases List.mem_cons.1 hC with rfl | hC
    · exact hne' l hl
    · exact (hne C (List.mem_cons_of_mem B hC) l hl).2
  have hlast'' : ∀ C ∈ B' :: bs, blockCue? C = none →
      ∀ l ∈ C.getLast?, findTiming (trim l).toList = none := by
    intro C hC hnone l hl
    rcases List.mem_cons.1 hC with rfl | hC
    · exact hlast' hnone l hl
    · exact findTiming_eq_none_of_isInfix (isInfix_trim l)
        (hlast C (List.mem_cons_of_mem B hC) hnone l hl)
  obtain ⟨got, hgot, -, hdone⟩ := @foldl_blocks _ idle_empty (B' :: bs) hne'' hlast''
  obtain _ | ⟨ho, hgot'⟩ := hgot
  refine ⟨_, .cons (fun c hc => ho c (hwf c hc)) hgot', ?_⟩
  -- no line holds a line feed, the mark's line included
  have hlines : ∀ x ∈ List.intercalate [""] (B.modifyHead dropMarks :: bs), '\n' ∉ x.toList := by
    intro x hx
    rcases mem_intercalate_blank hx with rfl | ⟨C, hC, hx⟩
    · simp
    rcases List.mem_cons.1 hC with rfl | hC
    · rcases B with _ | ⟨l, B⟩
      · cases hx
      rcases List.mem_cons.1 hx with rfl | hx
      · exact fun h => (hne _ List.mem_cons_self l List.mem_cons_self).1
          ((isSuffix_dropMarks l).subset h)
      · exact (hne _ List.mem_cons_self x (List.mem_cons_of_mem l hx)).1
    · exact (hne C (List.mem_cons_of_mem B hC) x hx).1
  rw [parse_eq, blockText, dropMarks_blockLines, finish_foldl_lines _ hlines,
    foldl_intercalate _ (List.cons_ne_nil _ _), List.foldl_cons, hfold, ← List.foldl_cons]
  apply renumber_sortByStart_congr
  rw [List.map_reverse, hdone]
  simp

/-- Two well-formed blocks out of order around one stray block, after a byte order mark. -/
theorem parse_three_blocks :
    ∃ got : List (Option Cue), List.Forall₂ (fun B o => ∀ c ∈ blockCue? B, o = some c)
      [["7", "00:00:05,000 --> 00:00:06,000", "Later"], ["junk", "more junk"],
        ["8", "00:00:01,000 --> 00:00:02,000", "Earlier", "  two lines "]] got ∧
      parse ("\uFEFF" ++ blockText [["7", "00:00:05,000 --> 00:00:06,000", "Later"],
        ["junk", "more junk"], ["8", "00:00:01,000 --> 00:00:02,000", "Earlier", "  two lines "]]) =
        renumber (sortByStart (got.filterMap id)) :=
  parse_blockText true (by decide +kernel) (by decide +kernel)

/-- A block that ends in its timing leaves the reader waiting for text, so the well-formed block
after it is read as that text and gives no cue of its own. -/
theorem parse_timing_block_swallows_next :
    blockCue? ["2", "00:00:03,000 --> 00:00:04,000", "Hi"] = some ⟨2, 3000, 4000, "Hi"⟩ ∧
      parse "1\n00:00:01,000 --> 00:00:02,000\n\n2\n00:00:03,000 --> 00:00:04,000\nHi\n" =
        [⟨1, 1000, 2000, "2\n00:00:03,000 --> 00:00:04,000\nHi"⟩] := by
  decide +kernel

end SubtitleQueue.Subtitle
