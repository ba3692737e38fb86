import SubtitleQueue.Proofs.Subtitle.Blocks

/-!
Cues read from SubRip text, written out and read again. Reading leaves every cue clean: a time
range that is not empty and text made of trimmed lines. Clean cues are written as blocks that
read back as the cues themselves, sorted and numbered afresh, as long as each cue ends before
100 hours: from there on the hours take three digits, and the timing pattern, which wants two,
no longer finds the timing.
-/

namespace SubtitleQueue.Subtitle

open Text Reader

/-- A line of cue text as reading keeps it: trimmed, not empty and without a line feed. -/
def CleanLine (l : String) : Prop := trim l = l ∧ l ≠ "" ∧ '\n' ∉ l.toList

theorem cleanLine_trim {l : String} (hl : trim l ≠ "") (hn : '\n' ∉ l.toList) :
    CleanLine (trim l) :=
  ⟨trim_trim l, hl, fun h => hn ((isInfix_trim l).subset h)⟩

/-- A cue as reading leaves it: a time range that is not empty and text made of clean lines. -/
structure Cue.Clean (c : Cue) : Prop where
  lt : c.start < c.stop
  lines : ∃ ts, ts ≠ [] ∧ (∀ t ∈ ts, CleanLine t) ∧ c.text = "\n".intercalate ts

theorem Cue.Clean.with_seq {c : Cue} (h : c.Clean) (k : Nat) : ({ c with seq := k } : Cue).Clean :=
  ⟨h.lt, h.lines⟩

theorem Cue.make_ok {seq start stop : Nat} {text : String} {c : Cue}
    (h : Cue.make seq start stop text = .ok c) :
    c = ⟨seq, start, stop, trim text⟩ ∧ start < stop ∧ trim text ≠ "" := by
  unfold Cue.make at h
  split at h
  · cases h
  · rename_i hlt
    dsimp only at h
    split at h
    · cases h
    · rename_i he
      cases h
      exact ⟨rfl, Nat.lt_of_not_le hlt, by simpa [String.isEmpty_iff] using he⟩

/-- What reading keeps: every cue read is clean and the text gathered is made of clean lines. -/
structure Reader.Clean (r : Reader) : Prop where
  done : ∀ c ∈ r.done, c.Clean
  text : ∃ ts, (∀ t ∈ ts, CleanLine t) ∧ r.text = "\n".intercalate ts

theorem Reader.clean_empty : Reader.Clean {} := ⟨by simp, [], by simp, rfl⟩

theorem Reader.clean_flush {r : Reader} (h : r.Clean) : r.flush.Clean := by
  unfold flush
  split
  · split
    · rename_i c hc
      obtain ⟨rfl, hlt, hne⟩ := Cue.make_ok hc
      obtain ⟨ts, hts, htx⟩ := h.text
      have htrim : trim r.text = r.text := by
        rw [htx]
        exact trim_intercalate fun t ht => ⟨(hts t ht).1, (hts t ht).2.1⟩
      refine ⟨?_, [], by simp, rfl⟩
      intro c hc'
      rcases List.mem_cons.1 hc' with rfl | hc'
      · refine ⟨hlt, ts, ?_, hts, by rw [htrim, htx]⟩
        rintro rfl
        exact hne (by rw [htrim, htx]; rfl)
      · exact h.done c hc'
    · exact ⟨h.done, [], by simp, rfl⟩
  · exact ⟨h.done, [], by simp, rfl⟩

theorem Reader.clean_finish {r : Reader} (h : r.Clean) : r.finish.Clean := by
  rcases finish_eq r with hf | hf <;> rw [hf]
  · exact h
  · exact clean_flush h

theorem Reader.clean_step {r : Reader} (h : r.Clean) {l : String} (hn : '\n' ∉ l.toList) :
    (r.step l).Clean := by
  rcases step_cases r l with ⟨-, hs⟩ | ⟨-, n, -, -, hs⟩ | ⟨-, tm, -, -, -, hs⟩ | ⟨hl, -, hs⟩ |
      ⟨-, -, hs⟩ <;> rw [hs]
  · exact clean_finish h
  · exact ⟨h.done, h.text⟩
  · exact ⟨h.done, h.text⟩
  · obtain ⟨ts, hts, htx⟩ := h.text
    refine ⟨h.done, ts ++ [trim l], ?_, ?_⟩
    · intro t ht
      rcases List.mem_append.1 ht with ht | ht
      · exact hts t ht
      · rw [List.mem_singleton.1 ht]
        exact cleanLine_trim hl hn
    · show (if r.text.isEmpty then trim l else r.text ++ "\n" ++ trim l) = _
      rw [htx]
      exact gather_eq (fun t ht => (hts t ht).2.1) _
  · exact h

theorem Reader.clean_foldl {r : Reader} (h : r.Clean) {xs : List String}
    (hxs : ∀ x ∈ xs, '\n' ∉ x.toList) : (xs.foldl step r).Clean := by
  induction xs generalizing r with
  | nil => exact h
  | cons x xs ih =>
    exact ih (clean_step h (hxs x List.mem_cons_self)) fun y hy => hxs y (List.mem_cons_of_mem x hy)

/-! ### What reading gives -/

theorem mem_renumber {c : Cue} {cs : List Cue} (h : c ∈ renumber cs) :
    ∃ x ∈ cs, ∃ i < cs.length, c = { x with seq := i + 1 } := by
  simp only [renumber, List.mem_map] at h
  obtain ⟨⟨x, i⟩, hx, rfl⟩ := h
  obtain ⟨hi, hxi⟩ := List.mem_zipIdx' hx
  exact ⟨x, hxi ▸ List.getElem_mem hi, i, hi, rfl⟩

theorem map_renumber {f : Cue → α} (hf : ∀ c k, f { c with seq := k } = f c) (cs : List Cue) :
    (renumber cs).map f = cs.map f := by
  simp only [renumber, List.map_map]
  conv_rhs => rw [← List.zipIdx_map_fst 0 cs, List.map_map]
  exact List.map_congr_left fun p _ => hf p.1 (p.2 + 1)

theorem renumber_renumber (cs : List Cue) : renumber (renumber cs) = renumber cs := by
  rw [← renumber_unnumbered, map_renumber (fun _ _ => rfl), renumber_unnumbered]

/-- Every cue read is clean. -/
theorem clean_parse (s : String) : ∀ c ∈ parse s, c.Clean := by
  intro c hc
  rw [parse_eq] at hc
  obtain ⟨x, hx, i, -, rfl⟩ := mem_renumber hc
  rw [sortByStart, List.mem_mergeSort, List.mem_reverse] at hx
  have hread : ((lines (dropMarks s)).foldl step {}).finish.Clean := by
    rw [foldl_step_congr (lines_map_trim _)]
    exact clean_finish (clean_foldl clean_empty fun x hx => newline_not_mem_of_mem_rawLines hx)
  exact (hread.done x hx).with_seq _

/-- The cues read are sorted by start. -/
theorem sorted_parse (s : String) : (parse s).Pairwise (fun a b => a.start ≤ b.start) := by
  rw [parse_eq]
  generalize ((lines (dropMarks s)).foldl step {}).finish.done.reverse = cs
  have hsort : (sortByStart cs).Pairwise (fun a b => decide (a.start ≤ b.start) = true) :=
    List.pairwise_mergeSort (fun a b c hab hbc => by simp at *; omega) (fun a b => by simp; omega) cs
  have hstart := @map_renumber _ Cue.start (fun _ _ => rfl) (sortByStart cs)
  have hmap : ((renumber (sortByStart cs)).map Cue.start).Pairwise (· ≤ ·) := by
    rw [hstart, List.pairwise_map]
    exact hsort.imp of_decide_eq_true
  exact List.pairwise_map.1 hmap

/-! ### Writing -/

/-- The lines a cue is written as, before the empty line that ends it. -/
def Cue.block (c : Cue) : List String :=
  toString c.seq :: timingLine c.start c.stop :: rawLines c.text

theorem Cue.block_ne_nil (c : Cue) : c.block ≠ [] := List.cons_ne_nil _ _

theorem Cue.Clean.rawLines {c : Cue} (h : c.Clean) :
    ∃ ts, rawLines c.text = ts ∧ ts ≠ [] ∧ (∀ t ∈ ts, CleanLine t) ∧ c.text = "\n".intercalate ts := by
  obtain ⟨ts, hne, hts, htx⟩ := h.lines
  refine ⟨ts, ?_, hne, hts, htx⟩
  rw [htx, rawLines_intercalate fun t ht => (hts t ht).2.2, if_neg]
  intro hl
  exact (hts "" (List.mem_of_getLast? hl)).2.1 rfl

theorem newline_not_mem_toString (n : Nat) : '\n' ∉ (toString n).toList := fun h =>
  absurd (Nat.isDigit_of_mem_toDigits (by decide) (by decide)
    (show '\n' ∈ Nat.toDigits 10 n by simpa using h)) (by decide)

theorem newline_not_mem_timingLine (start stop : Nat) : '\n' ∉ (timingLine start stop).toList := by
  have hno : ∀ ms, '\n' ∉ (Cue.timestamp ms).toList := by
    intro ms hc
    rcases mem_timestamp hc with h | h | h <;> simp_all
  rw [timingLine_toList]
  intro hc
  rcases List.mem_append.1 hc with hc | hc
  · exact hno start hc
  · exact hno stop (by simpa using hc)

/-- A clean cue's lines are not blank and hold no line feed. -/
theorem Cue.Clean.block_lines {c : Cue} (h : c.Clean) (hs : c.seq ≤ wordMax)
    (ht : c.stop < 360000000) : ∀ l ∈ c.block, '\n' ∉ l.toList ∧ trim l ≠ "" := by
  obtain ⟨ts, hraw, -, hts, -⟩ := h.rawLines
  intro l hl
  simp only [Cue.block, hraw, List.mem_cons] at hl
  rcases hl with rfl | rfl | hl
  · refine ⟨newline_not_mem_toString _, @trim_ne_of_parseUnsigned _ c.seq ?_⟩
    rw [trim_toString, parseUnsigned_toString hs]
  · refine ⟨newline_not_mem_timingLine _ _, @trim_ne_of_findTiming _ (c.start, c.stop) ?_⟩
    rw [trim_timingLine, findTiming_timingLine (h.lt.trans ht) ht]
  · exact ⟨(hts l hl).2.2, by rw [(hts l hl).1]; exact (hts l hl).2.1⟩

/-- A clean cue that ends before 100 hours and whose number reads back is written as a
well-formed block of itself. -/
theorem Cue.Clean.blockCue? {c : Cue} (h : c.Clean) (hs : c.seq ≤ wordMax)
    (ht : c.stop < 360000000) : blockCue? c.block = some c := by
  obtain ⟨ts, hraw, hne, hts, htx⟩ := h.rawLines
  obtain ⟨x, xs, rfl⟩ := List.exists_cons_of_ne_nil hne
  have hmap : (x :: xs).map trim = x :: xs := by
    conv_rhs => rw [← List.map_id (x :: xs)]
    exact List.map_congr_left fun t ht' => (hts t ht').1
  simp only [Cue.block, hraw, SubtitleQueue.Subtitle.blockCue?, trim_toString, parseUnsigned_toString hs,
    trim_timingLine, findTiming_timingLine (h.lt.trans ht) ht, h.lt, if_true, hmap, ← htx]

theorem Cue.Clean.render {c : Cue} (h : c.Clean) : c.render = "\n".intercalate c.block ++ "\n\n" := by
  obtain ⟨ts, hraw, hne, -, htx⟩ := h.rawLines
  obtain ⟨x, xs, rfl⟩ := List.exists_cons_of_ne_nil hne
  rw [Cue.block, hraw, String.intercalate_cons_cons, String.intercalate_cons_cons, ← htx]
  simp [Cue.render, timingLine, String.append_assoc]

/-- Clean cues are written as their blocks, an empty line after each. -/
theorem render_blocks {cs : List Cue} (hcs : cs ≠ []) (h : ∀ c ∈ cs, c.Clean) :
    render cs = "\n".intercalate (List.intercalate [""] (cs.map Cue.block ++ [[], []])) := by
  induction cs with
  | nil => exact absurd rfl hcs
  | cons c cs ih =>
    rw [render, List.map_cons, String.join_cons, (h c List.mem_cons_self).render]
    rcases cs with _ | ⟨d, cs⟩
    · simp [List.intercalate_cons_cons, String.intercalate_append_of_ne_nil (Cue.block_ne_nil c),
        String.append_assoc]
    · have hrest := ih (List.cons_ne_nil _ _) fun c' hc' => h c' (List.mem_cons_of_mem c hc')
      rw [render] at hrest
      simp only [List.map_cons, List.cons_append] at hrest ⊢
      have hne : [""].intercalate (d.block :: (cs.map Cue.block ++ [[], []])) ≠ [] := by
        rw [List.intercalate_cons_of_ne_nil (by simp)]
        simp [Cue.block]
      rw [List.intercalate_cons_cons, hrest, List.append_assoc,
        String.intercalate_append_of_ne_nil (Cue.block_ne_nil c) (by simp),
        String.intercalate_append_of_ne_nil (by simp) hne]
      simp [String.append_assoc]
      rfl

theorem filterMap_of_forall₂ {cs : List Cue} {got : List (Option Cue)}
    (hwf : ∀ c ∈ cs, blockCue? c.block = some c)
    (h : List.Forall₂ (fun B o => ∀ c ∈ blockCue? B, o = some c) (cs.map Cue.block) got) :
    got.filterMap id = cs := by
  induction cs generalizing got with
  | nil => cases h; rfl
  | cons c cs ih =>
    rw [List.map_cons] at h
    obtain _ | ⟨ho, h'⟩ := h
    rw [List.filterMap_cons, ho c (hwf c List.mem_cons_self),
      ih (fun c' hc' => hwf c' (List.mem_cons_of_mem c hc')) h']
    rfl

/-! ### Reading back -/

/-- Clean cues, each ending before 100 hours and with a number that reads back, written out and
read again come out sorted by start and numbered from one. -/
theorem parse_render {cs : List Cue} (h : ∀ c ∈ cs, c.Clean) (hs : ∀ c ∈ cs, c.seq ≤ wordMax)
    (ht : ∀ c ∈ cs, c.stop < 360000000) : parse (render cs) = renumber (sortByStart cs) := by
  rcases cs with _ | ⟨c, cs⟩
  · rfl
  have hlines : ∀ B ∈ (c :: cs).map Cue.block, ∀ l ∈ B, '\n' ∉ l.toList ∧ trim l ≠ "" := by
    intro B hB
    obtain ⟨d, hd, rfl⟩ := List.mem_map.1 hB
    exact (h d hd).block_lines (hs d hd) (ht d hd)
  have hwf : ∀ d ∈ c :: cs, blockCue? d.block = some d :=
    fun d hd => (h d hd).blockCue? (hs d hd) (ht d hd)
  obtain ⟨got, hgot, hidle, hdone⟩ := @foldl_blocks _ idle_empty ((c :: cs).map Cue.block)
    (fun B hB l hl => (hlines B hB l hl).2) (by
      intro B hB hnone
      obtain ⟨d, hd, rfl⟩ := List.mem_map.1 hB
      rw [hwf d hd] at hnone
      cases hnone)
  -- the number in front of the first block is no byte order mark
  have hmark : c.block.modifyHead dropMarks = c.block := by
    rw [Cue.block, List.modifyHead_cons, @dropMarks_of_parseUnsigned _ c.seq (by
      rw [trim_toString, parseUnsigned_toString (hs c List.mem_cons_self)])]
  have hnl : ∀ x ∈ [""].intercalate (c.block :: (cs.map Cue.block ++ [[], []])),
      '\n' ∉ x.toList := by
    intro x hx
    rcases mem_intercalate_blank hx with rfl | ⟨B, hB, hx⟩
    · simp
    · rw [← List.cons_append, ← List.map_cons] at hB
      rcases List.mem_append.1 hB with hB | hB
      · exact (hlines B hB x hx).1
      · simp only [List.mem_cons, List.not_mem_nil, or_false, or_self] at hB
        subst hB
        cases hx
  have hread : ((lines (dropMarks (render (c :: cs)))).foldl step {}).finish =
      ((c :: cs).map Cue.block).foldl (fun r B => (B.foldl step r).finish) {} := by
    rw [render_blocks (List.cons_ne_nil _ _) h, List.map_cons, List.cons_append,
      dropMarks_blockLines, hmark, finish_foldl_lines _ hnl, foldl_intercalate _ (List.cons_ne_nil _ _),
      ← List.cons_append, ← List.map_cons, List.foldl_append]
    simp only [List.foldl_cons, List.foldl_nil]
    rw [finish_of_timing hidle.1, finish_of_timing hidle.1]
  rw [parse_eq, hread]
  apply renumber_sortByStart_congr
  rw [List.map_reverse, hdone, filterMap_of_forall₂ hwf hgot]
  simp

theorem renumber_parse (s : String) : renumber (parse s) = parse s := by
  rw [parse_eq, renumber_renumber]

theorem sortByStart_parse (s : String) : sortByStart (parse s) = parse s :=
  List.mergeSort_of_pairwise ((sorted_parse s).imp fun h => decide_eq_true h)

/-- Cues read from a text, written out and read again, come back unchanged, as long as every cue
ends before 100 hours and there are no more cues than a machine word counts. -/
theorem parse_render_parse (s : String) (ht : ∀ c ∈ parse s, c.stop < 360000000)
    (hlen : (parse s).length ≤ wordMax) : parse (render (parse s)) = parse s := by
  have hs : ∀ c ∈ parse s, c.seq ≤ wordMax := by
    intro c hc
    rw [parse_eq] at hc hlen
    obtain ⟨x, -, i, hi, rfl⟩ := mem_renumber hc
    simp only [renumber, List.length_map, List.length_zipIdx] at hlen
    show i + 1 ≤ wordMax
    omega
  rw [parse_render (clean_parse s) hs ht, sortByStart_parse, renumber_parse]

theorem parse_render_parse_two_lines :
    parse (render (parse "1\n00:00:01,000 --> 00:00:02,500\n  Hello  \nworld\n")) =
      parse "1\n00:00:01,000 --> 00:00:02,500\n  Hello  \nworld\n" :=
  parse_render_parse _ (by decide +kernel) (by decide +kernel)

/-- A cue read at 100 hours is written with three-digit hours and is not read back. -/
theorem parse_render_late_cue :
    parse "1\n99:60:00,000 --> 99:60:00,001\nA\n" = [⟨1, 360000000, 360000001, "A"⟩] ∧
      parse (render [⟨1, 360000000, 360000001, "A"⟩]) = [] := by
  decide +kernel

end SubtitleQueue.Subtitle
