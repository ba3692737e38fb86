import SubtitleQueue.Proofs.Subtitle.Lines

/-!
Where the timing pattern matches. A match is a time of twelve characters, the arrow, and a
second time; so a line without a colon holds no timing, a match inside a part of a line makes
the whole line hold one, and in a line with a single arrow a match can only sit around that
arrow. A timing line as cues are written reads back as its two times exactly when both times
are below a hundred hours, where the hours still fit in two digits.
-/

namespace SubtitleQueue.Subtitle

open Text

/-! ### Numbers as digits -/

/-- A list of ASCII digits reads as the number its digits spell. -/
theorem digitsValue_eq {cs : List Char} (h : ∀ c ∈ cs, c.isDigit = true) (hne : cs ≠ []) :
    digitsValue cs = some (Nat.ofDigitChars 10 cs 0) := by
  have step : ∀ (ds : List Char) (n : Nat), (∀ c ∈ ds, c.isDigit = true) →
      ds.foldlM (fun (n : Nat) (c : Char) => if c.isDigit then some (n * 10 + (c.toNat - 48))
        else none) n =
        some (Nat.ofDigitChars 10 ds n) := by
    intro ds
    induction ds with
    | nil => intro n _; simp
    | cons d ds ih =>
      intro n hd
      rw [List.foldlM_cons, if_pos (hd d List.mem_cons_self), Option.bind_eq_bind,
        Option.bind_some, ih _ (fun c hc => hd c (List.mem_cons_of_mem d hc)),
        Nat.ofDigitChars_cons, Nat.mul_comm]
      rfl
  obtain ⟨c, cs', rfl⟩ := List.exists_cons_of_ne_nil hne
  exact step _ 0 h

theorem isDigit_of_digitsValue {cs : List Char} {n : Nat} (h : digitsValue cs = some n) :
    ∀ c ∈ cs, c.isDigit = true := by
  have step : ∀ (ds : List Char) (m : Nat), (ds.foldlM (fun (n : Nat) (c : Char) =>
      if c.isDigit then some (n * 10 + (c.toNat - 48)) else none) m).isSome →
      ∀ c ∈ ds, c.isDigit = true := by
    intro ds
    induction ds with
    | nil => simp
    | cons d ds ih =>
      intro m hm c hc
      rw [List.foldlM_cons] at hm
      by_cases hd : d.isDigit = true
      · rw [if_pos hd] at hm
        rcases List.mem_cons.1 hc with rfl | hc
        · exact hd
        · exact ih _ hm c hc
      · rw [if_neg hd] at hm
        simp at hm
  rcases cs with _ | ⟨d, ds⟩
  · simp [digitsValue] at h
  · exact step _ 0 (by simp only [digitsValue] at h; rw [h]; rfl)

/-- A number as the reader reads it has no colon in it. -/
theorem colon_not_mem_of_parseUnsigned {s : String} {n : Nat} (h : parseUnsigned s = some n) :
    ':' ∉ s.toList := by
  simp only [parseUnsigned] at h
  split at h
  · rename_i m hm
    intro hc
    rcases hs : s.toList with _ | ⟨c, cs⟩
    · simp [hs, digitsValue] at hm
    · rw [hs] at hm hc
      have hdig := isDigit_of_digitsValue hm
      by_cases hplus : c = '+'
      · subst hplus
        rcases List.mem_cons.1 hc with hc | hc
        · exact absurd hc (by decide)
        · exact absurd (hdig ':' (by simpa using hc)) (by decide)
      · exact absurd (hdig ':' (by simpa [hplus] using hc)) (by decide)
  · simp at h

/-! ### The shape of a match -/

theorem timeAt?_some {cs rest : List Char} {v : Nat} (h : timeAt? cs = some (v, rest)) :
    ∃ h1 h2 m1 m2 s1 s2 sep f1 f2 f3,
      cs = h1 :: h2 :: ':' :: m1 :: m2 :: ':' :: s1 :: s2 :: sep :: f1 :: f2 :: f3 :: rest ∧
      [h1, h2, m1, m2, s1, s2, f1, f2, f3].all isPatternDigit = true ∧ (sep = ',' ∨ sep = '.') := by
  unfold timeAt? at h
  split at h
  · rename_i h1 h2 m1 m2 s1 s2 sep f1 f2 f3 rest'
    split at h
    · rename_i hc
      simp only [Option.some.injEq, Prod.mk.injEq] at h
      obtain ⟨-, rfl⟩ := h
      simp only [Bool.and_eq_true, Bool.or_eq_true, beq_iff_eq] at hc
      exact ⟨h1, h2, m1, m2, s1, s2, sep, f1, f2, f3, rfl, hc.1, hc.2⟩
    · simp at h
  · simp at h

/-- A time read at the front of a text is read the same with more text after it. -/
theorem timeAt?_append {cs rest : List Char} {v : Nat} (more : List Char)
    (h : timeAt? cs = some (v, rest)) : timeAt? (cs ++ more) = some (v, rest ++ more) := by
  obtain ⟨h1, h2, m1, m2, s1, s2, sep, f1, f2, f3, rfl, hd, hs⟩ := timeAt?_some h
  have hc : ([h1, h2, m1, m2, s1, s2, f1, f2, f3].all isPatternDigit && (sep == ',' || sep == '.'))
      = true := by
    rcases hs with rfl | rfl <;> simp [hd]
  simp only [timeAt?, List.cons_append, hc, ↓reduceIte, Option.some.injEq, Prod.mk.injEq,
    and_true] at h ⊢
  exact h

theorem timingAt?_append {cs : List Char} {t : Nat × Nat} (more : List Char)
    (h : timingAt? cs = some t) : timingAt? (cs ++ more) = some t := by
  unfold timingAt? at h ⊢
  split at h
  · rename_i start rest hstart
    rw [timeAt?_append more hstart]
    simp only [List.cons_append]
    split at h
    · rename_i stop rest' hstop
      rw [timeAt?_append more hstop]
      exact h
    · simp at h
  · simp at h

/-- A match is a time, then an arrow, then the two digits and the colon that open the second
time; no arrow head comes before the arrow's. -/
theorem timingAt?_shape {cs : List Char} {t : Nat × Nat} (h : timingAt? cs = some t) :
    ∃ u x y w, cs = u ++ '>' :: ' ' :: x :: y :: ':' :: w ∧ '>' ∉ u := by
  unfold timingAt? at h
  split at h
  · rename_i start rest hstart
    split at h
    · rename_i stop rest' hstop
      obtain ⟨h1, h2, m1, m2, s1, s2, sep, f1, f2, f3, rfl, hd, hs⟩ := timeAt?_some hstart
      obtain ⟨x, y, n1, n2, r1, r2, sep', g1, g2, g3, rfl, -, -⟩ := timeAt?_some hstop
      refine ⟨[h1, h2, ':', m1, m2, ':', s1, s2, sep, f1, f2, f3, ' ', '-', '-'], x, y,
        n1 :: n2 :: ':' :: r1 :: r2 :: sep' :: g1 :: g2 :: g3 :: rest', by simp, ?_⟩
      have hgt : isPatternDigit '>' = false := by decide
      simp only [List.all_cons, List.all_nil, Bool.and_eq_true, Bool.and_true] at hd
      simp only [List.mem_cons, List.not_mem_nil, or_false, not_or]
      refine ⟨?_, ?_, by decide, ?_, ?_, by decide, ?_, ?_, ?_, ?_, ?_, ?_, by decide, by decide,
        by decide⟩ <;> (try rcases hs with rfl | rfl) <;> (try decide) <;>
        rintro rfl <;> simp_all
    · simp at h
  · simp at h

/-- A line without a colon holds no timing. -/
theorem findTiming_eq_none_of_colon {cs : List Char} (h : ':' ∉ cs) : findTiming cs = none := by
  induction cs with
  | nil => rfl
  | cons c cs ih =>
    have hat : timingAt? (c :: cs) = none := by
      unfold timingAt?
      split
      · rename_i start rest hstart
        obtain ⟨_, _, _, _, _, _, _, _, _, _, hcs, -, -⟩ := timeAt?_some hstart
        exact absurd (hcs ▸ List.mem_cons_of_mem _ (List.mem_cons_of_mem _ List.mem_cons_self)) h
      · rfl
    rw [findTiming, hat]
    exact ih (fun hc => h (List.mem_cons_of_mem c hc))

theorem findTiming_isSome_append {cs : List Char} (more : List Char)
    (h : (findTiming cs).isSome) : (findTiming (cs ++ more)).isSome := by
  induction cs with
  | nil => simp [findTiming] at h
  | cons c cs ih =>
    rw [List.cons_append, findTiming]
    rw [findTiming] at h
    split at h
    · rename_i t ht
      rw [← List.cons_append, timingAt?_append more ht]
      rfl
    · split
      · rfl
      · exact ih h

theorem findTiming_isSome_prefix {cs : List Char} (pre : List Char)
    (h : (findTiming cs).isSome) : (findTiming (pre ++ cs)).isSome := by
  induction pre with
  | nil => exact h
  | cons c pre ih =>
    rw [List.cons_append, findTiming]
    split
    · rfl
    · exact ih

/-- A part of a line that holds no timing holds none either. -/
theorem findTiming_eq_none_of_isInfix {cs ds : List Char} (hin : cs <:+: ds)
    (h : findTiming ds = none) : findTiming cs = none := by
  obtain ⟨pre, more, rfl⟩ := hin
  by_contra hne
  have := findTiming_isSome_prefix pre
    (findTiming_isSome_append more (Option.isSome_iff_ne_none.2 hne))
  rw [List.append_assoc] at h
  rw [h] at this
  simp at this

/-- The only places in `a ++ c :: b` where `c` stands, when `a` and `b` do not hold it. -/
theorem eq_of_append_cons_eq {c : Char} {a b x y : List Char} (ha : c ∉ a) (hb : c ∉ b)
    (h : a ++ c :: b = x ++ c :: y) : x = a ∧ y = b := by
  induction a generalizing x with
  | nil =>
    rcases x with _ | ⟨d, x⟩
    · simpa using h.symm
    · simp only [List.nil_append, List.cons_append, List.cons.injEq] at h
      exact absurd (h.2 ▸ List.mem_append_right x List.mem_cons_self) hb
  | cons d a ih =>
    rcases x with _ | ⟨e, x⟩
    · simp only [List.cons_append, List.nil_append, List.cons.injEq] at h
      exact absurd (h.1 ▸ List.mem_cons_self) ha
    · simp only [List.cons_append, List.cons.injEq] at h
      obtain ⟨rfl, h⟩ := h
      obtain ⟨rfl, rfl⟩ := ih (fun hc => ha (List.mem_cons_of_mem d hc)) h
      exact ⟨rfl, rfl⟩

/-- In a line with one arrow head, a timing can only match around that arrow: the second time
then opens the rest of the line. -/
theorem findTiming_single_arrow {a b : List Char} (ha : '>' ∉ a) (hb : '>' ∉ b)
    (h : (findTiming (a ++ '>' :: ' ' :: b)).isSome) :
    ∃ x y w, b = x :: y :: ':' :: w := by
  have hsplit : ∀ cs, (findTiming cs).isSome → ∃ pre m t, cs = pre ++ m ∧ timingAt? m = some t := by
    intro cs
    induction cs with
    | nil => simp [findTiming]
    | cons c cs ih =>
      rw [findTiming]
      split
      · rename_i t ht
        exact fun _ => ⟨[], c :: cs, t, rfl, ht⟩
      · intro hs
        obtain ⟨pre, m, t, rfl, hm⟩ := ih hs
        exact ⟨c :: pre, m, t, rfl, hm⟩
  obtain ⟨pre, m, t, hcs, hm⟩ := hsplit _ h
  obtain ⟨u, x, y, w, rfl, -⟩ := timingAt?_shape hm
  have heq : a ++ '>' :: ' ' :: b = (pre ++ u) ++ '>' :: (' ' :: x :: y :: ':' :: w) := by
    rw [hcs, List.append_assoc]
  obtain ⟨-, hy⟩ := eq_of_append_cons_eq ha (by simpa using hb) heq
  exact ⟨x, y, w, (List.cons.inj hy.symm).2⟩

/-! ### Written numbers and times -/

theorem isBlank_of_isDigit {c : Char} (h : c.isDigit = true) : isBlank c = false := by
  simp only [Char.isDigit, Bool.and_eq_true, decide_eq_true_eq] at h
  have h1 : 48 ≤ c.toNat := h.1
  have h2 : c.toNat ≤ 57 := h.2
  simp only [isBlank]
  generalize c.toNat = n at h1 h2 ⊢
  simp
  omega

theorem isPatternDigit_of_isDigit {c : Char} (h : c.isDigit = true) : isPatternDigit c = true := by
  simp [isPatternDigit, isDecimalDigit, h]

theorem padded_toList (w n : Nat) : (Cue.padded w n).toList =
    List.replicate (w - (Nat.toDigits 10 n).length) '0' ++ Nat.toDigits 10 n := by
  simp [Cue.padded, ← String.length_toList]

theorem isDigit_of_mem_padded {w n : Nat} {c : Char} (h : c ∈ (Cue.padded w n).toList) :
    c.isDigit = true := by
  rw [padded_toList] at h
  rcases List.mem_append.1 h with h | h
  · rw [List.eq_of_mem_replicate h]; rfl
  · exact Nat.isDigit_of_mem_toDigits (by decide) (by decide) h

theorem digitsValue_padded (w n : Nat) : digitsValue (Cue.padded w n).toList = some n := by
  rw [digitsValue_eq (fun c hc => isDigit_of_mem_padded hc)
    (by rw [padded_toList]; simp), padded_toList, Nat.ofDigitChars_append,
    Nat.ofDigitChars_replicate_zero, Nat.mul_zero, Nat.ofDigitChars_ten_toDigits]

/-- A number below `10 ^ w` is written with exactly `w` digits. -/
theorem length_padded {w n : Nat} (hw : 0 < w) (h : n < 10 ^ w) :
    (Cue.padded w n).toList.length = w := by
  have hlen := (Nat.length_toDigits_le_iff (by decide) hw).2 h
  rw [padded_toList, List.length_append, List.length_replicate]
  omega

/-- A number of at least `10 ^ w` is written with more than `w` digits. -/
theorem lt_length_padded {w n : Nat} (hw : 0 < w) (h : 10 ^ w ≤ n) :
    w < (Cue.padded w n).toList.length := by
  have hlen : ¬ (Nat.toDigits 10 n).length ≤ w :=
    fun hle => absurd ((Nat.length_toDigits_le_iff (by decide) hw).1 hle) (by omega)
  rw [padded_toList, List.length_append, List.length_replicate]
  omega

theorem timestamp_toList (ms : Nat) : (Cue.timestamp ms).toList =
    (Cue.padded 2 (ms / 3600000)).toList ++ ':' :: (Cue.padded 2 (ms % 3600000 / 60000)).toList ++
      ':' :: (Cue.padded 2 (ms % 60000 / 1000)).toList ++ ',' :: (Cue.padded 3 (ms % 1000)).toList := by
  simp [Cue.timestamp]

theorem mem_timestamp {ms : Nat} {c : Char} (h : c ∈ (Cue.timestamp ms).toList) :
    c.isDigit = true ∨ c = ':' ∨ c = ',' := by
  simp [Cue.timestamp] at h
  rcases h with h | h | h | h | h | h | h
  · exact .inl (isDigit_of_mem_padded h)
  · exact .inr (.inl h)
  · exact .inl (isDigit_of_mem_padded h)
  · exact .inr (.inl h)
  · exact .inl (isDigit_of_mem_padded h)
  · exact .inr (.inr h)
  · exact .inl (isDigit_of_mem_padded h)

/-- Two digits that spell `n`. -/
theorem padded_two {n : Nat} (h : n < 100) : ∃ d e, (Cue.padded 2 n).toList = [d, e] ∧
    isPatternDigit d = true ∧ isPatternDigit e = true ∧ fieldValue [d, e] = n := by
  obtain ⟨d, e, hde⟩ := List.length_eq_two.1 (length_padded (by decide) (by simpa using h))
  have hd := isDigit_of_mem_padded (hde ▸ List.mem_cons_self : d ∈ (Cue.padded 2 n).toList)
  have he := isDigit_of_mem_padded (by simp [hde] : e ∈ (Cue.padded 2 n).toList)
  refine ⟨d, e, hde, isPatternDigit_of_isDigit hd, isPatternDigit_of_isDigit he, ?_⟩
  simp [fieldValue, ← hde, digitsValue_padded]

/-- Three digits that spell `n`. -/
theorem padded_three {n : Nat} (h : n < 1000) : ∃ d e f, (Cue.padded 3 n).toList = [d, e, f] ∧
    isPatternDigit d = true ∧ isPatternDigit e = true ∧ isPatternDigit f = true ∧
    fieldValue [d, e, f] = n := by
  obtain ⟨d, e, f, hdef⟩ := List.length_eq_three.1 (length_padded (by decide) (by simpa using h))
  have hd := isDigit_of_mem_padded (by simp [hdef] : d ∈ (Cue.padded 3 n).toList)
  have he := isDigit_of_mem_padded (by simp [hdef] : e ∈ (Cue.padded 3 n).toList)
  have hf := isDigit_of_mem_padded (by simp [hdef] : f ∈ (Cue.padded 3 n).toList)
  refine ⟨d, e, f, hdef, isPatternDigit_of_isDigit hd, isPatternDigit_of_isDigit he,
    isPatternDigit_of_isDigit hf, ?_⟩
  simp [fieldValue, ← hdef, digitsValue_padded]

/-- A time below a hundred hours, as cues are written, reads back as itself. -/
theorem timeAt?_timestamp {ms : Nat} (h : ms < 360000000) (rest : List Char) :
    timeAt? ((Cue.timestamp ms).toList ++ rest) = some (ms, rest) := by
  obtain ⟨h1, h2, hh, ph1, ph2, vh⟩ := padded_two (show ms / 3600000 < 100 by omega)
  obtain ⟨m1, m2, hm, pm1, pm2, vm⟩ := padded_two (show ms % 3600000 / 60000 < 100 by omega)
  obtain ⟨s1, s2, hs, ps1, ps2, vs⟩ := padded_two (show ms % 60000 / 1000 < 100 by omega)
  obtain ⟨f1, f2, f3, hf, pf1, pf2, pf3, vf⟩ := padded_three (show ms % 1000 < 1000 by omega)
  rw [timestamp_toList, hh, hm, hs, hf]
  simp only [List.cons_append, List.nil_append, timeAt?, List.all_cons, List.all_nil, ph1, ph2,
    pm1, pm2, ps1, ps2, pf1, pf2, pf3, Bool.and_self, beq_self_eq_true, Bool.true_or,
    ↓reduceIte, vh, vm, vs, vf, Option.some.injEq, Prod.mk.injEq, and_true]
  omega

/-- The timing line of a cue. -/
def timingLine (start stop : Nat) : String :=
  Cue.timestamp start ++ " --> " ++ Cue.timestamp stop

theorem timingLine_toList (start stop : Nat) : (timingLine start stop).toList =
    (Cue.timestamp start).toList ++ ' ' :: '-' :: '-' :: '>' :: ' ' :: (Cue.timestamp stop).toList := by
  simp [timingLine]

/-- A timing line whose times are below a hundred hours holds exactly its two times. -/
theorem findTiming_timingLine {start stop : Nat} (hs : start < 360000000) (ht : stop < 360000000) :
    findTiming (timingLine start stop).toList = some (start, stop) := by
  have hat : timingAt? (timingLine start stop).toList = some (start, stop) := by
    rw [timingLine_toList, timingAt?, timeAt?_timestamp hs]
    simp only
    rw [← List.append_nil (Cue.timestamp stop).toList, timeAt?_timestamp ht]
  obtain ⟨c, cs, hcs⟩ := List.exists_cons_of_ne_nil (show (timingLine start stop).toList ≠ [] by
    simp [timingLine_toList])
  rw [hcs] at hat ⊢
  rw [findTiming, hat]

/-- A timing line whose end is a hundred hours or more holds no timing: its end hours take three
digits, where the pattern wants two and a colon. -/
theorem findTiming_timingLine_late (start : Nat) {stop : Nat} (ht : 360000000 ≤ stop) :
    findTiming (timingLine start stop).toList = none := by
  have hno : ∀ ms, '>' ∉ (Cue.timestamp ms).toList := by
    intro ms hc
    rcases mem_timestamp hc with h | h | h <;> simp_all
  have hlong := lt_length_padded (show 0 < 2 by decide) (show 10 ^ 2 ≤ stop / 3600000 by omega)
  obtain ⟨d1, d2, d3, ds, hds⟩ : ∃ d1 d2 d3 ds,
      (Cue.padded 2 (stop / 3600000)).toList = d1 :: d2 :: d3 :: ds := by
    match hl : (Cue.padded 2 (stop / 3600000)).toList, hlong with
    | d1 :: d2 :: d3 :: ds, _ => exact ⟨d1, d2, d3, ds, rfl⟩
  have hd3 : d3.isDigit = true :=
    isDigit_of_mem_padded (show d3 ∈ (Cue.padded 2 (stop / 3600000)).toList by rw [hds]; simp)
  by_contra hne
  have hsplit : (timingLine start stop).toList =
      ((Cue.timestamp start).toList ++ [' ', '-', '-']) ++ '>' :: ' ' :: (Cue.timestamp stop).toList := by
    simp [timingLine_toList]
  have hno' : '>' ∉ (Cue.timestamp start).toList ++ [' ', '-', '-'] := by
    intro hc
    rcases List.mem_append.1 hc with hc | hc
    · exact hno start hc
    · simp at hc
  obtain ⟨x, y, w, hw⟩ := findTiming_single_arrow hno' (hno stop)
    (by rw [← hsplit]; exact Option.isSome_iff_ne_none.2 hne)
  rw [timestamp_toList, hds] at hw
  simp only [List.cons_append, List.cons.injEq] at hw
  rw [hw.2.2.1] at hd3
  exact absurd hd3 (by decide)

/-- A number written in decimal reads back as itself, up to the largest word. -/
theorem parseUnsigned_toString {n : Nat} (h : n ≤ wordMax) : parseUnsigned (toString n) = some n := by
  have hdig : ∀ c ∈ (toString n).toList, c.isDigit = true := fun c hc =>
    Nat.isDigit_of_mem_toDigits (by decide) (by decide) (show c ∈ Nat.toDigits 10 n by simpa using hc)
  have hval : digitsValue (toString n).toList = some n := by
    rw [digitsValue_eq hdig (by simp)]
    simp
  have hhead : ∀ rest, (toString n).toList ≠ '+' :: rest := by
    intro rest hr
    exact absurd (hdig '+' (by rw [hr]; exact List.mem_cons_self)) (by decide)
  simp only [parseUnsigned]
  split
  · rename_i m hm
    rw [hval] at hm
    cases hm
    simp [h]
  · rename_i hm
    rw [hval] at hm
    cases hm

theorem trim_toString (n : Nat) : trim (toString n) = toString n := by
  apply trim_eq_self
  have hdig : ∀ c ∈ (toString n).toList, isBlank c = false := fun c hc =>
    isBlank_of_isDigit (Nat.isDigit_of_mem_toDigits (by decide) (by decide)
      (show c ∈ Nat.toDigits 10 n by simpa using hc))
  exact ⟨fun c hc => hdig c (List.mem_of_mem_head? hc),
    fun c hc => hdig c (List.mem_of_mem_getLast? hc)⟩

theorem padded_ne_nil (w n : Nat) : (Cue.padded w n).toList ≠ [] := by
  simp [padded_toList]

/-- A written time starts and ends with a digit. -/
theorem timestamp_ends (ms : Nat) : ∃ c d mid, (Cue.timestamp ms).toList = c :: mid ++ [d] ∧
    c.isDigit = true ∧ d.isDigit = true := by
  obtain ⟨c, cs, hc⟩ := List.exists_cons_of_ne_nil (padded_ne_nil 2 (ms / 3600000))
  rcases List.eq_nil_or_concat (Cue.padded 3 (ms % 1000)).toList with hd | ⟨ds, d, hd⟩
  · exact absurd hd (padded_ne_nil 3 _)
  · refine ⟨c, d, cs ++ ':' :: (Cue.padded 2 (ms % 3600000 / 60000)).toList ++
      ':' :: (Cue.padded 2 (ms % 60000 / 1000)).toList ++ ',' :: ds, ?_,
      isDigit_of_mem_padded (hc ▸ List.mem_cons_self),
      isDigit_of_mem_padded (show d ∈ (Cue.padded 3 (ms % 1000)).toList by rw [hd]; simp)⟩
    rw [timestamp_toList, hc, hd]
    simp

theorem trim_timingLine (start stop : Nat) :
    trim (timingLine start stop) = timingLine start stop := by
  apply trim_eq_self
  obtain ⟨c, c', mid, hs, hc, -⟩ := timestamp_ends start
  obtain ⟨d', d, mid', ht, -, hd⟩ := timestamp_ends stop
  have hl : (timingLine start stop).toList =
      c :: (mid ++ c' :: ' ' :: '-' :: '-' :: '>' :: ' ' :: d' :: mid') ++ [d] := by
    rw [timingLine_toList, hs, ht]
    simp
  rw [hl]
  refine ⟨by simpa using isBlank_of_isDigit hc, fun x hx => ?_⟩
  rw [List.getLast?_concat, Option.mem_some_iff] at hx
  exact hx ▸ isBlank_of_isDigit hd

end SubtitleQueue.Subtitle
