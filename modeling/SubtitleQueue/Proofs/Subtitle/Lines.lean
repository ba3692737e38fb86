import Mathlib
import SubtitleQueue.Subtitle.Srt

/-!
The text operations a SubRip reader stands on. A text joined at line feeds is cut back into the
same pieces; `trim` keeps the middle of a line between two runs of blanks, and that middle
neither starts nor ends with a blank; the lines of a text are, up to the blanks at their ends,
the pieces between its line feeds less an empty piece after the last one.
-/

namespace SubtitleQueue.Text

/-! ### Cutting at a separator -/

theorem cutWhere_ne_nil (p : Char → Bool) (cs : List Char) : cutWhere p cs ≠ [] := by
  cases cs with
  | nil => simp [cutWhere]
  | cons c cs =>
    rw [cutWhere]
    split
    · simp
    · split <;> simp

theorem cutWhere_of_forall {p : Char → Bool} {cs : List Char} (h : ∀ c ∈ cs, p c = false) :
    cutWhere p cs = [cs] := by
  induction cs with
  | nil => rfl
  | cons c cs ih =>
    rw [cutWhere, ih (fun d hd => h d (List.mem_cons_of_mem c hd))]
    simp [h c List.mem_cons_self]

theorem cutWhere_append_cons {p : Char → Bool} {x : List Char} {c : Char} (rest : List Char)
    (hx : ∀ d ∈ x, p d = false) (hc : p c = true) :
    cutWhere p (x ++ c :: rest) = x :: cutWhere p rest := by
  induction x with
  | nil =>
    obtain ⟨w, ws, hw⟩ := List.exists_cons_of_ne_nil (cutWhere_ne_nil p rest)
    simp [cutWhere, hw, hc]
  | cons d x ih =>
    rw [List.cons_append, cutWhere, ih (fun e he => hx e (List.mem_cons_of_mem d he))]
    simp [hx d List.mem_cons_self]

/-- Pieces joined at a separator they do not hold are cut back into themselves. -/
theorem cutWhere_intercalate {p : Char → Bool} {c : Char} (hc : p c = true) :
    ∀ (xs : List (List Char)), xs ≠ [] → (∀ x ∈ xs, ∀ d ∈ x, p d = false) →
      cutWhere p (List.intercalate [c] xs) = xs
  | [], h, _ => absurd rfl h
  | [x], _, hx => by simpa using cutWhere_of_forall (hx x List.mem_cons_self)
  | x :: y :: rest, _, hx => by
    rw [List.intercalate_cons_cons, List.append_assoc, List.singleton_append,
      cutWhere_append_cons _ (hx x List.mem_cons_self) hc,
      cutWhere_intercalate hc (y :: rest) (List.cons_ne_nil _ _)
        (fun z hz => hx z (List.mem_cons_of_mem x hz))]

/-- No piece holds a character it was cut at. -/
theorem eq_false_of_mem_cutWhere {p : Char → Bool} {cs w : List Char} {c : Char}
    (hw : w ∈ cutWhere p cs) (hc : c ∈ w) : p c = false := by
  induction cs generalizing w with
  | nil =>
    simp only [cutWhere, List.mem_singleton] at hw
    simp [hw] at hc
  | cons d cs ih =>
    rw [cutWhere] at hw
    rcases hcut : cutWhere p cs with _ | ⟨w', ws⟩
    · exact absurd hcut (cutWhere_ne_nil p cs)
    · rw [hcut] at hw ih
      by_cases hd : p d = true
      · simp only [hd, ↓reduceIte, List.mem_cons] at hw
        rcases hw with rfl | rfl | hw
        · simp at hc
        · exact ih List.mem_cons_self hc
        · exact ih (List.mem_cons_of_mem w' hw) hc
      · simp only [hd, Bool.false_eq_true, ↓reduceIte, List.mem_cons] at hw
        rcases hw with rfl | hw
        · rcases List.mem_cons.1 hc with rfl | hc
          · simpa using hd
          · exact ih List.mem_cons_self hc
        · exact ih (List.mem_cons_of_mem w' hw) hc

/-! ### Trimming -/

/-- Characters that neither start nor end with a blank. -/
def Trimmed (cs : List Char) : Prop :=
  (∀ c ∈ cs.head?, isBlank c = false) ∧ ∀ c ∈ cs.getLast?, isBlank c = false

theorem trim_toList (s : String) :
    (trim s).toList = (dropBlanks (dropBlanks s.toList).reverse).reverse := by
  simp [trim]

theorem dropBlanks_blank_append {pre : List Char} (rest : List Char)
    (h : ∀ c ∈ pre, isBlank c = true) : dropBlanks (pre ++ rest) = dropBlanks rest := by
  simp [dropBlanks, List.dropWhile_append, List.dropWhile_eq_nil_iff.2 h]

theorem dropBlanks_of_head {cs : List Char} (h : ∀ c ∈ cs.head?, isBlank c = false) :
    dropBlanks cs = cs := by
  cases cs with
  | nil => rfl
  | cons c cs => exact List.dropWhile_cons_of_neg (by simp [h c rfl])

/-- What `trim` keeps is determined by any cut of the line into blanks, a middle that neither
starts nor ends with a blank, and blanks. -/
theorem trim_eq_of_split {s : String} (pre m suf : List Char) (hs : s.toList = pre ++ m ++ suf)
    (hpre : ∀ c ∈ pre, isBlank c = true) (hsuf : ∀ c ∈ suf, isBlank c = true) (hm : Trimmed m) :
    (trim s).toList = m := by
  rw [trim_toList, hs, List.append_assoc, dropBlanks_blank_append _ hpre]
  rcases m with _ | ⟨a, m⟩
  · simp [dropBlanks, List.dropWhile_eq_nil_iff.2 hsuf]
  · have hlast : ∀ c ∈ (a :: m).reverse.head?, isBlank c = false := by
      rw [List.head?_reverse]; exact hm.2
    have hfront : dropBlanks (a :: m ++ suf) = a :: m ++ suf :=
      dropBlanks_of_head (by simpa using hm.1)
    rw [hfront, List.reverse_append,
      dropBlanks_blank_append _ (by simpa using hsuf), dropBlanks_of_head hlast,
      List.reverse_reverse]

theorem trim_split (s : String) : ∃ pre suf, s.toList = pre ++ (trim s).toList ++ suf ∧
    (∀ c ∈ pre, isBlank c = true) ∧ (∀ c ∈ suf, isBlank c = true) := by
  set M := dropBlanks s.toList
  set N := dropBlanks M.reverse
  have hL : s.toList = s.toList.takeWhile isBlank ++ M := List.takeWhile_append_dropWhile.symm
  have hM : M.reverse = M.reverse.takeWhile isBlank ++ N := List.takeWhile_append_dropWhile.symm
  refine ⟨s.toList.takeWhile isBlank, (M.reverse.takeWhile isBlank).reverse, ?_,
    fun c hc => List.mem_takeWhile_imp hc, fun c hc => List.mem_takeWhile_imp (List.mem_reverse.1 hc)⟩
  have hM' : M = N.reverse ++ (M.reverse.takeWhile isBlank).reverse := by
    rw [← List.reverse_append, ← hM, List.reverse_reverse]
  rw [trim_toList, List.append_assoc, ← hM']
  exact hL

theorem trimmed_trim (s : String) : Trimmed (trim s).toList := by
  set M := dropBlanks s.toList
  set N := dropBlanks M.reverse
  have hN : ∀ c ∈ N.head?, isBlank c = false := by
    have := List.head?_dropWhile_not isBlank M.reverse
    intro c hc
    rw [Option.mem_def] at hc
    simp only [N, dropBlanks] at hc
    rwa [hc] at this
  have hM : ∀ c ∈ M.head?, isBlank c = false := by
    have := List.head?_dropWhile_not isBlank s.toList
    intro c hc
    rw [Option.mem_def] at hc
    simp only [M, dropBlanks] at hc
    rwa [hc] at this
  rw [trim_toList]
  refine ⟨?_, by rw [List.getLast?_reverse]; exact hN⟩
  rw [List.head?_reverse]
  intro c hc
  obtain ⟨t, ht⟩ := @List.dropWhile_suffix _ M.reverse isBlank
  have hc' : N.getLast? = some c := hc
  have hlast : N.getLast? = M.reverse.getLast? := by
    rw [← ht, List.getLast?_append]
    simp only [N, dropBlanks] at hc' ⊢
    rw [hc', Option.some_or]
  rw [List.getLast?_reverse] at hlast
  exact hM c (by rw [← hlast]; exact hc)

theorem trim_eq_self {s : String} (h : Trimmed s.toList) : trim s = s :=
  String.toList_inj.1 (trim_eq_of_split [] s.toList [] (by simp) (by simp) (by simp) h)

@[simp] theorem trim_trim (s : String) : trim (trim s) = trim s :=
  trim_eq_self (trimmed_trim s)

/-- A line that ends in a blank trims as the line without it. -/
theorem trim_append_blank {cs : List Char} {c : Char} (hc : isBlank c = true) :
    trim (String.ofList (cs ++ [c])) = trim (String.ofList cs) := by
  obtain ⟨pre, suf, hs, hpre, hsuf⟩ := trim_split (String.ofList cs)
  apply String.toList_inj.1
  refine trim_eq_of_split pre _ (suf ++ [c]) ?_ hpre ?_ (trimmed_trim _)
  · rw [String.toList_ofList] at hs ⊢
    exact (congrArg (· ++ [c]) hs).trans (by simp)
  · intro d hd
    rcases List.mem_append.1 hd with hd | hd
    · exact hsuf d hd
    · rw [List.mem_singleton.1 hd]; exact hc

/-- A line that starts with a blank trims as the line without it. -/
theorem trim_blank_cons {cs : List Char} {c : Char} (hc : isBlank c = true) :
    trim (String.ofList (c :: cs)) = trim (String.ofList cs) := by
  obtain ⟨pre, suf, hs, hpre, hsuf⟩ := trim_split (String.ofList cs)
  apply String.toList_inj.1
  refine trim_eq_of_split (c :: pre) _ suf ?_ ?_ hsuf (trimmed_trim _)
  · rw [String.toList_ofList] at hs ⊢
    rw [List.cons_append, List.cons_append]
    exact congrArg (c :: ·) hs
  · intro d hd
    rcases List.mem_cons.1 hd with rfl | hd
    · exact hc
    · exact hpre d hd

theorem isInfix_trim (s : String) : (trim s).toList <:+: s.toList := by
  obtain ⟨pre, suf, hs, -, -⟩ := trim_split s
  exact ⟨pre, suf, hs.symm⟩

theorem trim_eq_empty_iff {s : String} : trim s = "" ↔ ∀ c ∈ s.toList, isBlank c = true := by
  obtain ⟨pre, suf, hs, hpre, hsuf⟩ := trim_split s
  constructor
  · intro h
    rw [h] at hs
    intro c hc
    rw [hs] at hc
    simp only [String.toList_empty, List.append_nil, List.mem_append] at hc
    exact hc.elim (hpre c) (hsuf c)
  · intro h
    apply String.toList_inj.1
    exact trim_eq_of_split s.toList [] [] (by simp) h (by simp) (by simp [Trimmed])

theorem Trimmed.append {a b c : List Char} (ha : Trimmed a) (hc : Trimmed c) (ha' : a ≠ [])
    (hc' : c ≠ []) : Trimmed (a ++ b ++ c) := by
  obtain ⟨x, xs, rfl⟩ := List.exists_cons_of_ne_nil ha'
  refine ⟨by simpa using ha.1, ?_⟩
  rw [List.getLast?_append, List.getLast?_eq_some_getLast hc']
  simpa [List.getLast?_eq_some_getLast hc'] using hc.2

theorem intercalate_ne_empty {t : String} (ts : List String) (ht : t ≠ "") :
    "\n".intercalate (t :: ts) ≠ "" := by
  rcases ts with _ | ⟨u, us⟩
  · simpa using ht
  · rw [String.intercalate_cons_cons]
    intro h
    have := congrArg String.toList h
    simp at this

/-- Lines that are their own trim and not empty, joined at line feeds, neither start nor end
with a blank. -/
theorem trimmed_intercalate :
    ∀ (ts : List String), (∀ t ∈ ts, trim t = t ∧ t ≠ "") → Trimmed ("\n".intercalate ts).toList
  | [], _ => by simp [Trimmed]
  | [t], h => by
    rw [String.intercalate_singleton, ← (h t List.mem_cons_self).1]
    exact trimmed_trim t
  | t :: u :: us, h => by
    have ht := h t List.mem_cons_self
    have hrest : ∀ v ∈ u :: us, trim v = v ∧ v ≠ "" := fun v hv => h v (List.mem_cons_of_mem t hv)
    rw [String.intercalate_cons_cons, String.toList_append, String.toList_append]
    refine Trimmed.append (by rw [← ht.1]; exact trimmed_trim t) (trimmed_intercalate _ hrest)
      (fun h => ht.2 (String.toList_eq_nil_iff.1 h)) ?_
    exact fun h => intercalate_ne_empty us (hrest u List.mem_cons_self).2 (String.toList_eq_nil_iff.1 h)

theorem trim_intercalate {ts : List String} (h : ∀ t ∈ ts, trim t = t ∧ t ≠ "") :
    trim ("\n".intercalate ts) = "\n".intercalate ts :=
  trim_eq_self (trimmed_intercalate ts h)

/-! ### Lines -/

/-- The pieces of a text between its line feeds, without the empty piece after a last line
feed. -/
def rawLines (s : String) : List String :=
  let pieces := cutWhere (· == '\n') s.toList
  (if pieces.getLast? == some [] then pieces.dropLast else pieces).map String.ofList

/-- A carriage return at the end of a piece is a blank, so dropping it keeps the trim. -/
theorem trim_dropReturn (p : List Char) :
    trim (String.ofList (if p.getLast? == some '\r' then p.dropLast else p)) =
      trim (String.ofList p) := by
  split
  · rename_i h
    have hp : p.dropLast ++ ['\r'] = p := List.dropLast_append_getLast? '\r' (by simpa using h)
    conv_rhs => rw [← hp]
    exact (trim_append_blank (by decide)).symm
  · rfl

/-- Up to the blanks at their ends, the lines of a text are the pieces between its line feeds. -/
theorem lines_map_trim (s : String) : (lines s).map trim = (rawLines s).map trim := by
  simp only [lines, rawLines, List.map_map]
  generalize (if (cutWhere (· == '\n') s.toList).getLast? == some [] then
    (cutWhere (· == '\n') s.toList).dropLast else cutWhere (· == '\n') s.toList) = ps
  conv_rhs => rw [← List.zipIdx_map_fst 0 ps, List.map_map]
  apply List.map_congr_left
  rintro ⟨p, i⟩ -
  simp only [Function.comp_apply]
  split
  · exact trim_dropReturn p
  · rfl

/-- Lines joined at line feeds come back as the pieces of the text, less a last empty one. -/
theorem rawLines_intercalate {xs : List String} (h : ∀ x ∈ xs, '\n' ∉ x.toList) :
    rawLines ("\n".intercalate xs) = if xs.getLast? = some "" then xs.dropLast else xs := by
  rcases xs with _ | ⟨x, xs⟩
  · simp [rawLines, cutWhere]
  · have hcut : cutWhere (· == '\n') ("\n".intercalate (x :: xs)).toList =
        (x :: xs).map String.toList := by
      rw [String.toList_intercalate]
      refine cutWhere_intercalate (by rfl) _ (by simp) ?_
      intro y hy d hd
      obtain ⟨z, hz, rfl⟩ := List.mem_map.1 hy
      simpa using fun hn : d = '\n' => h z hz (hn ▸ hd)
    have hlast : ((x :: xs).map String.toList).getLast? == some [] ↔
        (x :: xs).getLast? = some "" := by
      rw [List.getLast?_map]
      cases (x :: xs).getLast? <;> simp [String.toList_eq_nil_iff]
    simp only [rawLines, hcut]
    by_cases hl : (x :: xs).getLast? = some ""
    · rw [if_pos (hlast.2 hl), if_pos hl, ← List.map_dropLast, List.map_map]
      simp
    · rw [if_neg (fun h' => hl (hlast.1 h')), if_neg hl, List.map_map]
      simp

theorem newline_not_mem_of_mem_rawLines {s l : String} (h : l ∈ rawLines s) :
    '\n' ∉ l.toList := by
  simp only [rawLines] at h
  obtain ⟨p, hp, rfl⟩ := List.mem_map.1 h
  have hp' : p ∈ cutWhere (· == '\n') s.toList := by
    split at hp
    · exact List.dropLast_subset _ hp
    · exact hp
  intro hn
  have := eq_false_of_mem_cutWhere hp' (by simpa using hn)
  simp at this

end SubtitleQueue.Text

namespace SubtitleQueue.Subtitle

open Text

/-! ### Byte order marks -/

theorem dropMarks_mark_append (s : String) : dropMarks ("\uFEFF" ++ s) = dropMarks s := by
  simp [dropMarks]

/-- Only the first line of a text can lose its byte order marks. -/
theorem dropMarks_intercalate (x : String) (xs : List String) :
    dropMarks ("\n".intercalate (x :: xs)) = "\n".intercalate (dropMarks x :: xs) := by
  rcases xs with _ | ⟨y, ys⟩
  · simp
  · apply String.ext
    simp only [dropMarks, String.intercalate_cons_cons, String.toList_append,
      String.toList_ofList, List.append_assoc]
    rw [List.dropWhile_append]
    split
    · rename_i h
      simp [List.isEmpty_iff.1 h]
    · rfl

theorem dropMarks_of_head {s : String} (h : s.toList.head? ≠ some '\uFEFF') :
    dropMarks s = s := by
  apply String.ext
  rcases hs : s.toList with _ | ⟨c, cs⟩
  · simp [dropMarks, hs]
  · rw [hs] at h
    simp only [dropMarks, String.toList_ofList, hs]
    exact List.dropWhile_cons_of_neg (by simpa using h)

end SubtitleQueue.Subtitle
