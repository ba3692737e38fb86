import Mathlib
import SubtitleQueue.Text.Markup

/-!
Laying the words of a text out in lines. Both ways the library breaks a translated text into
lines write its words in order, joined by single spaces within a line and by line feeds
between lines (`renderLines`); they differ in where a line ends.

Greedy wrapping (`rewrap`) fills each line while the next word fits: every line fits the width
or holds a single word, and no line could take the first word of the next (`Greedy`). Restoring
the line breaks of a multi-line source (`keepLineBreaks`) ends a line once the characters placed
reach the running share of the source lines, and only while a source line is left
(`FollowsTargets`). Nothing makes the characters reach a share before the words run out, so a
translation with as many words as the source has lines may come back with fewer lines.

Both loops are read the same way: after each word, the lines done and the line being filled
are a layout of the words read so far that keeps the rule (`Wrapped`, `Broken`); one step keeps
that, and the run lemma follows by induction on the words read.
-/

namespace SubtitleQueue.Text

/-! ### Lines of words -/

/-- A line's words joined by single spaces. -/
def joinLine (l : List String) : String := " ".intercalate l

/-- Lines of words as text: each line's words joined by single spaces, the lines by line
feeds. -/
def renderLines (ls : List (List String)) : String := "\n".intercalate (ls.map joinLine)

@[simp] theorem joinLine_singleton (w : String) : joinLine [w] = w := by
  simp [joinLine]

theorem joinLine_concat {c : List String} (hc : c ≠ []) (w : String) :
    joinLine (c ++ [w]) = joinLine c ++ " " ++ w := by
  rw [joinLine, String.intercalate_append_of_ne_nil hc (List.cons_ne_nil _ _)]
  simp [joinLine]

theorem length_joinLine_concat {c : List String} (hc : c ≠ []) (w : String) :
    (joinLine (c ++ [w])).length = (joinLine c).length + 1 + w.length := by
  simp [joinLine_concat hc, String.length_append, show " ".length = 1 from rfl]

/-- A line is at least as long as its first word. -/
theorem length_le_joinLine_cons (w : String) (rest : List String) :
    w.length ≤ (joinLine (w :: rest)).length := by
  cases rest with
  | nil => simp
  | cons u rest =>
    simp only [joinLine, String.intercalate_cons_cons, String.length_append]
    omega

/-- A line of words that have characters is not empty. -/
theorem joinLine_ne_empty {c : List String} (hc : c ≠ []) (hw : ∀ w ∈ c, 0 < w.length) :
    joinLine c ≠ "" := by
  obtain ⟨w, rest, rfl⟩ := List.exists_cons_of_ne_nil hc
  have hle := length_le_joinLine_cons w rest
  have hpos := hw w (by simp)
  intro h
  have hzero : (joinLine (w :: rest)).length = 0 := by rw [h]; rfl
  omega

/-- The lines done and a line being filled that is not empty close to all of them. -/
theorem closeLines_joinLine (ds : List (List String)) {c : List String} (hc : joinLine c ≠ "") :
    closeLines (ds.map joinLine) (joinLine c) = (ds ++ [c]).map joinLine := by
  simp [closeLines, hc]

/-- The last line of a layout of words that have characters is not empty. -/
theorem joinLine_last_ne_empty {ds : List (List String)} {c : List String} {ws : List String}
    (hflat : (ds ++ [c]).flatten = ws) (hws : ∀ u ∈ ws, 0 < u.length) (hc : c ≠ []) :
    joinLine c ≠ "" :=
  joinLine_ne_empty hc fun u hu => hws u (hflat ▸ List.mem_flatten.2 ⟨c, by simp, hu⟩)

/-- Every word of a text has a character. -/
theorem length_pos_of_mem_words {s w : String} (h : w ∈ words s) : 0 < w.length := by
  simp only [words, List.mem_map, List.mem_filter] at h
  obtain ⟨cs, ⟨-, hcs⟩, rfl⟩ := h
  simpa [String.length_ofList, List.length_pos_iff] using hcs

/-! ### Greedy wrapping -/

/-- Wrapping at `width`: every line has a word and fits the width or holds that word alone,
and no line could take the first word of the next one. -/
structure Greedy (width : Nat) (ls : List (List String)) : Prop where
  nonempty : ∀ l ∈ ls, l ≠ []
  fits : ∀ l ∈ ls, (joinLine l).length ≤ width ∨ l.length = 1
  full : ls.IsChain fun a b => width < (joinLine a).length + 1 + (b.headD "").length

namespace Greedy

variable {width : Nat} {ds : List (List String)} {c : List String} {w : String}

theorem nil : Greedy width [] := ⟨by simp, by simp, List.isChain_nil⟩

theorem single (w : String) : Greedy width [[w]] :=
  ⟨by simp, by simp, List.isChain_singleton _⟩

/-- A word that does not fit after the last line starts a line of its own. -/
theorem push (h : Greedy width (ds ++ [c])) (hover : width < (joinLine c).length + 1 + w.length) :
    Greedy width (ds ++ [c] ++ [[w]]) where
  nonempty l hl := by
    rcases List.mem_append.1 hl with hl | hl
    · exact h.nonempty l hl
    · simp_all
  fits l hl := by
    rcases List.mem_append.1 hl with hl | hl
    · exact h.fits l hl
    · simp_all
  full := List.isChain_append.2 ⟨h.full, List.isChain_singleton _, by simpa using hover⟩

/-- A word that fits after the last line joins it. -/
theorem extend (h : Greedy width (ds ++ [c])) (hc : c ≠ [])
    (hfit : (joinLine c).length + 1 + w.length ≤ width) : Greedy width (ds ++ [c ++ [w]]) where
  nonempty l hl := by
    rcases List.mem_append.1 hl with hl | hl
    · exact h.nonempty l (by simp [hl])
    · simp_all
  fits l hl := by
    rcases List.mem_append.1 hl with hl | hl
    · exact h.fits l (by simp [hl])
    · simp only [List.mem_singleton] at hl
      subst hl
      exact .inl (by rw [length_joinLine_concat hc]; exact hfit)
  full := by
    -- the line keeps its first word, so it still does not fit after the line before
    have hhead : (c ++ [w]).headD "" = c.headD "" := by
      obtain ⟨u, rest, rfl⟩ := List.exists_cons_of_ne_nil hc
      rfl
    obtain ⟨hds, -, hlast⟩ := List.isChain_append.1 h.full
    refine List.isChain_append.2 ⟨hds, List.isChain_singleton _, ?_⟩
    intro x hx y hy
    simp only [List.head?_cons, Option.mem_def, Option.some.injEq] at hy
    subst hy
    rw [hhead]
    exact hlast x hx c (by simp)

end Greedy

/-- After the words `ws`, greedy wrapping holds the lines done and a line being filled that
lay `ws` out greedily. -/
def Wrapped (width : Nat) (ws : List String) (acc : List String × String) : Prop :=
  ∃ ds c, acc = (ds.map joinLine, joinLine c) ∧ (ds ++ [c]).flatten = ws ∧
    Greedy width (ds ++ [c])

theorem wrapStep_start (width : Nat) (w : String) : Wrapped width [w] (wrapStep width ([], "") w) :=
  ⟨[], [w], by simp [wrapStep], by simp, Greedy.single w⟩

/-- One word keeps greedy wrapping. -/
theorem wrapStep_wrapped {width : Nat} {ws : List String} {acc : List String × String}
    {w : String} (h : Wrapped width ws acc) (hws : ∀ u ∈ ws, 0 < u.length) :
    Wrapped width (ws ++ [w]) (wrapStep width acc w) := by
  obtain ⟨ds, c, rfl, hflat, hg⟩ := h
  have hc : c ≠ [] := hg.nonempty c (by simp)
  have hcur : joinLine c ≠ "" := joinLine_last_ne_empty hflat hws hc
  by_cases hfit : (joinLine c).length + 1 + w.length ≤ width
  · -- the word joins the line being filled
    refine ⟨ds, c ++ [w], ?_, by simp [← hflat], hg.extend hc hfit⟩
    simp [wrapStep, hcur, joinLine_concat hc, show ¬ width < (joinLine c).length + 1 + w.length by omega]
  · -- the line is done and the word starts the next
    refine ⟨ds ++ [c], [w], ?_, by simp [← hflat], hg.push (by omega)⟩
    simp [wrapStep, hcur, show width < (joinLine c).length + 1 + w.length by omega]

/-- Greedy wrapping of words that have characters lays all of them out greedily. -/
theorem foldl_wrapStep_wrapped (width : Nat) {ws : List String} (hws : ∀ u ∈ ws, 0 < u.length)
    (hne : ws ≠ []) : Wrapped width ws (ws.foldl (wrapStep width) ([], "")) := by
  induction ws using List.reverseRecOn with
  | nil => exact absurd rfl hne
  | append_singleton ws w ih =>
    rw [List.foldl_append, List.foldl_cons, List.foldl_nil]
    by_cases hws' : ws = []
    · subst hws'
      exact wrapStep_start width w
    · exact wrapStep_wrapped (ih (fun u hu => hws u (by simp [hu])) hws') fun u hu =>
        hws u (by simp [hu])

/-- The lines greedy wrapping makes of the words of a text lay them out greedily. -/
theorem foldl_wrapStep_words (s : String) (width : Nat) :
    ∃ ls, ls.flatten = words s ∧ Greedy width ls ∧
      "\n".intercalate (closeLines ((words s).foldl (wrapStep width) ([], "")).1
        ((words s).foldl (wrapStep width) ([], "")).2) = renderLines ls := by
  by_cases hnil : words s = []
  · exact ⟨[], by simp [hnil], Greedy.nil, by simp [hnil, closeLines, renderLines]⟩
  · obtain ⟨ds, c, hacc, hflat, hg⟩ :=
      foldl_wrapStep_wrapped width (fun _ => length_pos_of_mem_words) hnil
    have hcur : joinLine c ≠ "" :=
      joinLine_last_ne_empty hflat (fun _ => length_pos_of_mem_words) (hg.nonempty c (by simp))
    refine ⟨ds ++ [c], hflat, hg, ?_⟩
    rw [hacc, closeLines_joinLine ds hcur, renderLines]

theorem rewrap_of_fits {s : String} {width : Nat}
    (h : width = 0 ∨ ∀ l ∈ lines s, l.length ≤ width) : rewrap s width = s := by
  rcases h with rfl | h
  · simp [rewrap]
  · have hall : (lines s).all (·.length ≤ width) = true :=
      List.all_eq_true.2 fun l hl => decide_eq_true (h l hl)
    simp [rewrap, hall]

theorem rewrap_of_overflow {s : String} {width : Nat}
    (h : ¬ (width = 0 ∨ ∀ l ∈ lines s, l.length ≤ width)) :
    rewrap s width = "\n".intercalate (closeLines ((words s).foldl (wrapStep width) ([], "")).1
      ((words s).foldl (wrapStep width) ([], "")).2) := by
  obtain ⟨h0, hlong⟩ := not_or.1 h
  simp [rewrap, h0, hlong]

/-- Rewrapping a text whose lines do not all fit a positive width lays its words out greedily,
and any other text is left as it is. -/
theorem rewrap_wraps_greedily (s : String) (width : Nat) :
    ∃ ls, ls.flatten = words s ∧ Greedy width ls ∧
      rewrap s width =
        if width = 0 ∨ ∀ l ∈ lines s, l.length ≤ width then s else renderLines ls := by
  obtain ⟨ls, hflat, hg, hrender⟩ := foldl_wrapStep_words s width
  refine ⟨ls, hflat, hg, ?_⟩
  split
  · next hkeep => exact rewrap_of_fits hkeep
  · next hwrap => rw [rewrap_of_overflow hwrap, hrender]

example : rewrap "This sentence is definitely longer than twenty characters" 20 =
    "This sentence is\ndefinitely longer\nthan twenty\ncharacters" := by
  decide +kernel

/-! ### Restoring line breaks -/

/-- The characters that lines of words place, line breaks not counted. -/
def placed (ls : List (List String)) : Nat := (ls.map fun l => (joinLine l).length).sum

@[simp] theorem placed_nil : placed [] = 0 := rfl

@[simp] theorem placed_append (a b : List (List String)) : placed (a ++ b) = placed a + placed b := by
  simp [placed]

@[simp] theorem placed_cons (l : List String) (ls : List (List String)) :
    placed (l :: ls) = (joinLine l).length + placed ls := by
  simp [placed]

/-- The running target of line `k`: the shares of lines `0` to `k` together. -/
def runningTarget (share : Nat → Nat) (k : Nat) : Nat := ((List.range (k + 1)).map share).sum

@[simp] theorem runningTarget_zero (share : Nat → Nat) : runningTarget share 0 = share 0 := by
  simp [runningTarget]

theorem runningTarget_succ (share : Nat → Nat) (k : Nat) :
    runningTarget share (k + 1) = runningTarget share k + share (k + 1) := by
  simp only [runningTarget]
  rw [List.sum_range_succ]

/-- Lines laid out against `n` source lines whose running targets are `target`: at most `n`
lines, each with a word. A line ends only once the characters placed reach its target, and
while another source line is left it ends then: before its last word they had not. -/
structure FollowsTargets (n : Nat) (target : Nat → Nat) (ls : List (List String)) : Prop where
  nonempty : ∀ l ∈ ls, l ≠ []
  length_le : ls.length ≤ n
  reached : ∀ k, k + 1 < ls.length → target k ≤ placed (ls.take (k + 1))
  prompt : ∀ k (_ : k < ls.length), k + 1 < n →
    ls[k].length = 1 ∨ placed (ls.take k) + (joinLine ls[k].dropLast).length < target k

namespace FollowsTargets

variable {n : Nat} {target : Nat → Nat} {ds : List (List String)} {c : List String} {w : String}

theorem nil : FollowsTargets n target [] := ⟨by simp, by simp, by simp, by simp⟩

theorem single (hn : 0 < n) (w : String) : FollowsTargets n target [[w]] where
  nonempty := by simp
  length_le := by simp; omega
  reached k hk := by simp at hk
  prompt k hk _ := by
    simp only [List.length_singleton, Nat.lt_one_iff] at hk
    subst hk
    simp

/-- The line being filled ends once its target is reached, and the word starts the next. -/
theorem push (h : FollowsTargets n target (ds ++ [c]))
    (hreach : target ds.length ≤ placed (ds ++ [c])) (hroom : ds.length + 1 < n) :
    FollowsTargets n target (ds ++ [c] ++ [[w]]) where
  nonempty l hl := by
    rcases List.mem_append.1 hl with hl | hl
    · exact h.nonempty l hl
    · simp_all
  length_le := by simp; omega
  reached k hk := by
    have hk' : k + 1 ≤ (ds ++ [c]).length := by simp at hk ⊢; omega
    rw [List.take_append_of_le_length hk']
    by_cases hlt : k + 1 < (ds ++ [c]).length
    · exact h.reached k hlt
    · -- the line that just ended
      have hk : k = ds.length := by simp at hlt hk'; omega
      subst hk
      rwa [List.take_of_length_le (by simp)]
  prompt k hk hn := by
    by_cases hlt : k < (ds ++ [c]).length
    · rw [List.getElem_append_left hlt, List.take_append_of_le_length (Nat.le_of_lt hlt)]
      exact h.prompt k hlt hn
    · -- the new line holds one word
      left
      rw [List.getElem_append_right (Nat.le_of_not_lt hlt)]
      simp

/-- A word goes on the line being filled when its target was not reached before it. -/
theorem extend (h : FollowsTargets n target (ds ++ [c])) (hc : c ≠ [])
    (hbelow : ds.length + 1 < n → placed (ds ++ [c]) < target ds.length) :
    FollowsTargets n target (ds ++ [c ++ [w]]) where
  nonempty l hl := by
    rcases List.mem_append.1 hl with hl | hl
    · exact h.nonempty l (by simp [hl])
    · simp_all
  length_le := by simpa using h.length_le
  reached k hk := by
    have hk' : k + 1 ≤ ds.length := by simp at hk; omega
    have hold := h.reached k (by simp; omega)
    rw [List.take_append_of_le_length hk'] at hold
    rwa [List.take_append_of_le_length hk']
  prompt k hk hn := by
    by_cases hlt : k < ds.length
    · have hold := h.prompt k (by simp; omega) hn
      rw [List.getElem_append_left hlt, List.take_append_of_le_length (Nat.le_of_lt hlt)]
      rwa [List.getElem_append_left hlt, List.take_append_of_le_length (Nat.le_of_lt hlt)] at hold
    · -- the line being filled: before the word its target was not reached
      have hk : k = ds.length := by simp at hk; omega
      subst hk
      right
      have hbelow := hbelow hn
      simp only [placed_append, placed_cons, placed_nil] at hbelow
      simpa using hbelow

end FollowsTargets

/-- After the words `ws`, restoring line breaks against `src` holds the lines done and a line
being filled that lay `ws` out by the running targets, together with the characters they place
and the target of the line being filled. -/
def Broken (src : List String) (share : Nat → Nat) (ws : List String) (st : Breaking) : Prop :=
  ∃ ds c, st = ⟨ds.map joinLine, joinLine c, ds.length, placed (ds ++ [c]),
      runningTarget share ds.length⟩ ∧
    (ds ++ [c]).flatten = ws ∧ FollowsTargets src.length (runningTarget share) (ds ++ [c])

theorem breakStep_start {src : List String} (hsrc : 0 < src.length) (share : Nat → Nat)
    (w : String) : Broken src share [w] (breakStep src share ⟨[], "", 0, 0, share 0⟩ w) :=
  ⟨[], [w], by simp [breakStep], by simp, FollowsTargets.single hsrc w⟩

/-- One word keeps the layout by running targets. -/
theorem breakStep_broken {src : List String} {share : Nat → Nat} {ws : List String}
    {st : Breaking} {w : String} (h : Broken src share ws st) (hws : ∀ u ∈ ws, 0 < u.length) :
    Broken src share (ws ++ [w]) (breakStep src share st w) := by
  obtain ⟨ds, c, rfl, hflat, hf⟩ := h
  have hc : c ≠ [] := hf.nonempty c (by simp)
  have hcur : joinLine c ≠ "" := joinLine_last_ne_empty hflat hws hc
  by_cases hbreak : runningTarget share ds.length ≤ placed ds + (joinLine c).length ∧
      ds.length + 1 < src.length
  · -- the target is reached and a source line is left: the line ends before the word
    refine ⟨ds ++ [c], [w], ?_, by simp [← hflat], hf.push (by simpa using hbreak.1) hbreak.2⟩
    simp [breakStep, hcur, hbreak, runningTarget_succ]
    omega
  · -- the word goes on the line
    refine ⟨ds, c ++ [w], ?_, by simp [← hflat],
      hf.extend hc fun hn => Nat.lt_of_not_le fun hle => hbreak ⟨by simpa using hle, hn⟩⟩
    simp [breakStep, hcur, hbreak, joinLine_concat hc, show " ".length = 1 from rfl]
    omega

/-- Restoring line breaks against a source with a line lays all the words that have
characters out by the running targets. -/
theorem foldl_breakStep_broken {src : List String} (hsrc : 0 < src.length) (share : Nat → Nat)
    {ws : List String} (hws : ∀ u ∈ ws, 0 < u.length) (hne : ws ≠ []) :
    Broken src share ws (ws.foldl (breakStep src share) ⟨[], "", 0, 0, share 0⟩) := by
  induction ws using List.reverseRecOn with
  | nil => exact absurd rfl hne
  | append_singleton ws w ih =>
    rw [List.foldl_append, List.foldl_cons, List.foldl_nil]
    by_cases hws' : ws = []
    · subst hws'
      exact breakStep_start hsrc share w
    · exact breakStep_broken (ih (fun u hu => hws u (by simp [hu])) hws') fun u hu =>
        hws u (by simp [hu])

/-- Restoring line breaks against a source with a line lays the words of a text out by the
running targets. -/
theorem foldl_breakStep_words {src : List String} (hsrc : 0 < src.length) (share : Nat → Nat)
    (t : String) :
    ∃ ls, ls.flatten = words t ∧ FollowsTargets src.length (runningTarget share) ls ∧
      "\n".intercalate
        (closeLines ((words t).foldl (breakStep src share) ⟨[], "", 0, 0, share 0⟩).done
          ((words t).foldl (breakStep src share) ⟨[], "", 0, 0, share 0⟩).cur) =
        renderLines ls := by
  by_cases hnil : words t = []
  · exact ⟨[], by simp [hnil], FollowsTargets.nil, by simp [hnil, closeLines, renderLines]⟩
  · obtain ⟨ds, c, hst, hflat, hf⟩ :=
      foldl_breakStep_broken hsrc share (fun _ => length_pos_of_mem_words) hnil
    have hcur : joinLine c ≠ "" :=
      joinLine_last_ne_empty hflat (fun _ => length_pos_of_mem_words) (hf.nonempty c (by simp))
    refine ⟨ds ++ [c], hflat, hf, ?_⟩
    simp only [hst]
    rw [closeLines_joinLine ds hcur, renderLines]

theorem keepLineBreaks_of_not_split {original translated : String}
    (h : ¬ (2 ≤ (lines original).length ∧ (lines translated).length = 1 ∧
      0 < ((lines original).map String.length).sum)) :
    keepLineBreaks original translated = translated := by
  simp only [keepLineBreaks, ← List.sum_eq_foldl_nat]
  split
  · rfl
  · next hsplit =>
    have hzero : ((lines original).map String.length).sum = 0 := by
      simp only [Bool.or_eq_true, decide_eq_true_eq, bne_iff_ne, ne_eq, not_or, not_not,
        not_le] at hsplit
      omega
    simp [hzero]

theorem keepLineBreaks_of_split {original translated : String}
    (h : 2 ≤ (lines original).length ∧ (lines translated).length = 1 ∧
      0 < ((lines original).map String.length).sum) :
    keepLineBreaks original translated =
      "\n".intercalate (closeLines
        ((words translated).foldl (breakStep (lines original) (lineShare (lines original)
          translated.length ((lines original).map String.length).sum))
          ⟨[], "", 0, 0, lineShare (lines original) translated.length
            ((lines original).map String.length).sum 0⟩).done
        ((words translated).foldl (breakStep (lines original) (lineShare (lines original)
          translated.length ((lines original).map String.length).sum))
          ⟨[], "", 0, 0, lineShare (lines original) translated.length
            ((lines original).map String.length).sum 0⟩).cur) := by
  obtain ⟨htwo, hone, hpos⟩ := h
  simp [keepLineBreaks, ← List.sum_eq_foldl_nat, hone, Nat.pos_iff_ne_zero.1 hpos,
    show ¬ (lines original).length ≤ 1 by omega]

/-- Restoring the line breaks of a source with two lines or more and characters in them, in a
one-line translation, lays the translation's words out by the running shares of the source
lines; any other translation is left as it is. -/
theorem keepLineBreaks_follows_shares (original translated : String) :
    (2 ≤ (lines original).length ∧ (lines translated).length = 1 ∧
        0 < ((lines original).map String.length).sum →
      ∃ ls, ls.flatten = words translated ∧
        FollowsTargets (lines original).length (runningTarget (lineShare (lines original)
          translated.length ((lines original).map String.length).sum)) ls ∧
        keepLineBreaks original translated = renderLines ls) ∧
    (¬ (2 ≤ (lines original).length ∧ (lines translated).length = 1 ∧
        0 < ((lines original).map String.length).sum) →
      keepLineBreaks original translated = translated) := by
  refine ⟨fun h => ?_, keepLineBreaks_of_not_split⟩
  have hsrc : 0 < (lines original).length := by have := h.1; omega
  obtain ⟨ls, hflat, hf, hrender⟩ := foldl_breakStep_words hsrc
    (lineShare (lines original) translated.length ((lines original).map String.length).sum)
    translated
  exact ⟨ls, hflat, hf, by rw [keepLineBreaks_of_split h, hrender]⟩

example : keepLineBreaks "How are you\ntoday my friend" "Comment vas-tu aujourd hui mon ami" =
    "Comment vas-tu\naujourd hui mon ami" := by
  decide +kernel

/-- The two-line source of the formatting tests, against its one-line translation. -/
theorem keepLineBreaks_follows_shares_two_lines :
    (2 ≤ (lines "How are you\ntoday my friend").length ∧
        (lines "Comment vas-tu aujourd hui mon ami").length = 1 ∧
        0 < ((lines "How are you\ntoday my friend").map String.length).sum) ∧
      ∃ ls, ls.flatten = words "Comment vas-tu aujourd hui mon ami" ∧
        FollowsTargets (lines "How are you\ntoday my friend").length
          (runningTarget (lineShare (lines "How are you\ntoday my friend")
            "Comment vas-tu aujourd hui mon ami".length
            ((lines "How are you\ntoday my friend").map String.length).sum)) ls ∧
        keepLineBreaks "How are you\ntoday my friend" "Comment vas-tu aujourd hui mon ami" =
          renderLines ls := by
  have h : 2 ≤ (lines "How are you\ntoday my friend").length ∧
      (lines "Comment vas-tu aujourd hui mon ami").length = 1 ∧
      0 < ((lines "How are you\ntoday my friend").map String.length).sum := by
    decide +kernel
  exact ⟨h, (keepLineBreaks_follows_shares _ _).1 h⟩

/-- A one-line translation with as many words as its source has lines can keep fewer lines:
the first line's share, 5 of the 10 characters, is not reached before the last word. -/
theorem keepLineBreaks_two_words_one_line :
    (lines "x\ny").length = 2 ∧ 0 < ((lines "x\ny").map String.length).sum ∧
      (lines "a bbbbbbbb").length = 1 ∧ (words "a bbbbbbbb").length = 2 ∧
      keepLineBreaks "x\ny" "a bbbbbbbb" = "a bbbbbbbb" ∧
      (lines (keepLineBreaks "x\ny" "a bbbbbbbb")).length = 1 := by
  decide +kernel

end SubtitleQueue.Text
