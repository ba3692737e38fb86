import Mathlib
import SubtitleQueue.Batch.Envelope

/-!
Entry markers in a batch answer. A marker is `<<ENTRY_`, a run of decimal digits and `>>`; the
reader cuts an answer at every marker and keeps those whose digits name a position, writing the
others back into the text before them. The main statements: cutting a text followed by a marker
cuts the text and then the rest (`splitMarkers_append`); every text has a `Cut` at its markers
that name positions (`exists_cut`), and the reader finds exactly the parts of any such cut
(`positioned_of_cut`). Last, the end mark: `before` keeps what stands before its first
occurrence (`before_endsBefore`) and passes over whole lines that do not hold it.
-/

namespace SubtitleQueue.Batch

open Text

theorem drop_length_takeWhile {α : Type} (p : α → Bool) (l : List α) :
    l.drop (l.takeWhile p).length = l.dropWhile p := by
  induction l with
  | nil => rfl
  | cons a l ih => by_cases h : p a <;> simp [h, ih]

/-! ### Markers -/

theorem markerText_eq (ds : List Char) :
    markerText ds = '<' :: '<' :: 'E' :: 'N' :: 'T' :: 'R' :: 'Y' :: '_' :: (ds ++ ['>', '>']) := by
  unfold markerText
  simp

/-- The digits of a marker: a non-empty run of decimal digits. -/
def Digits (ds : List Char) : Prop := ds ≠ [] ∧ ∀ c ∈ ds, isDecimalDigit c = true

theorem markerAt?_markerText {ds : List Char} (h : Digits ds) (rest : List Char) :
    markerAt? (markerText ds ++ rest) = some (ds, rest) := by
  have htake : (ds ++ '>' :: '>' :: rest).takeWhile isDecimalDigit = ds := by
    rw [List.takeWhile_append_of_pos h.2]
    simp [show isDecimalDigit '>' = false by decide]
  simp [markerAt?, markerText_eq, htake, List.isEmpty_iff, h.1]

theorem markerAt?_eq_some {cs ds after : List Char} (h : markerAt? cs = some (ds, after)) :
    Digits ds ∧ cs = markerText ds ++ after := by
  unfold markerAt? at h
  split at h
  · rename_i rest
    dsimp only at h
    split at h
    · rename_i after' hdrop
      split at h
      · cases h
      · rename_i hne
        cases h
        refine ⟨⟨by simpa [List.isEmpty_iff] using hne, fun c hc => List.mem_takeWhile_imp hc⟩, ?_⟩
        have hrest : rest = rest.takeWhile isDecimalDigit ++ '>' :: '>' :: after := by
          rw [← hdrop, drop_length_takeWhile, List.takeWhile_append_dropWhile]
        rw [markerText_eq]
        nth_rewrite 1 [hrest]
        simp
    · cases h
  · cases h

/-- What may follow a text without making a marker run across the boundary: nothing, or a
text that opens with `<<`. -/
def Opens (b : List Char) : Prop := b = [] ∨ ∃ r, b = '<' :: '<' :: r

/-- No part of a marker other than its whole is followed by `<<`: the only `<` of a marker are
its first two characters, and the second is followed by `E`. -/
theorem not_opens_of_split {ds a a' after r : List Char} (h : Digits ds) (ha : a ≠ [])
    (ha' : a' ≠ []) (hm : markerText ds = a ++ a') (hb : a' ++ after = '<' :: '<' :: r) : False := by
  obtain ⟨c, a₁, rfl⟩ := List.exists_cons_of_ne_nil ha
  rw [markerText_eq] at hm
  simp only [List.cons_append, List.cons.injEq] at hm
  rcases a₁ with _ | ⟨c', a₂⟩
  · simp only [List.nil_append] at hm
    rw [← hm.2] at hb
    simp at hb
  · obtain ⟨x, a'', rfl⟩ := List.exists_cons_of_ne_nil ha'
    simp only [List.cons_append, List.cons.injEq] at hm hb
    have hlt : '<' ∉ ds := fun h' => absurd (h.2 _ h') (by decide)
    have hx : x ∈ 'E' :: 'N' :: 'T' :: 'R' :: 'Y' :: '_' :: (ds ++ ['>', '>']) := by
      rw [hm.2.2]
      simp
    rw [hb.1] at hx
    simp [hlt] at hx

/-- A marker found at the front of a text that `b` follows lies inside the text, when `b` opens
with `<<`. -/
theorem markerAt?_append {a b : List Char} (ha : a ≠ []) (hb : Opens b) :
    markerAt? (a ++ b) = (markerAt? a).map fun x => (x.1, x.2 ++ b) := by
  cases h : markerAt? a with
  | some x =>
    obtain ⟨hd, hx⟩ := markerAt?_eq_some h
    rw [hx, List.append_assoc, markerAt?_markerText hd]
    rfl
  | none =>
    cases h' : markerAt? (a ++ b) with
    | none => rfl
    | some y =>
      obtain ⟨hd, hy⟩ := markerAt?_eq_some h'
      rcases List.append_eq_append_iff.1 hy with ⟨a', hm, hb'⟩ | ⟨c', ha', -⟩
      · by_cases hne : a' = []
        · subst hne
          rw [List.append_nil] at hm
          rw [← hm, ← List.append_nil (markerText y.1), markerAt?_markerText hd] at h
          cases h
        · rcases hb with rfl | ⟨r, rfl⟩
          · exact (hne (List.append_eq_nil_iff.1 hb'.symm).1).elim
          · exact (not_opens_of_split hd ha hne hm hb'.symm).elim
      · rw [ha', markerAt?_markerText hd] at h
        cases h


/-! ### Cutting a text at its markers -/

theorem splitMarkers_nil : splitMarkers [] = ([], []) := by
  rw [splitMarkers]

theorem splitMarkers_of_none {c : Char} {cs : List Char} (h : markerAt? (c :: cs) = none) :
    splitMarkers (c :: cs) = (c :: (splitMarkers cs).1, (splitMarkers cs).2) := by
  rw [splitMarkers, h]

theorem splitMarkers_of_some {c : Char} {cs ds after : List Char}
    (h : markerAt? (c :: cs) = some (ds, after)) :
    splitMarkers (c :: cs) = ([], (ds, (splitMarkers after).1) :: (splitMarkers after).2) := by
  have hlen : after.length < cs.length + 1 := by
    have := congrArg List.length (markerAt?_eq_some h).2
    simp [markerText_eq] at this
    omega
  rw [splitMarkers, h]
  simp [hlen]

theorem splitMarkers_markerText {ds : List Char} (hd : Digits ds) (rest : List Char) :
    splitMarkers (markerText ds ++ rest) = ([], (ds, (splitMarkers rest).1) :: (splitMarkers rest).2) := by
  have hat := markerAt?_markerText hd rest
  obtain ⟨c, cs, hcs⟩ : ∃ c cs, markerText ds ++ rest = c :: cs := ⟨_, _, by rw [markerText_eq]; rfl⟩
  rw [hcs] at hat ⊢
  exact splitMarkers_of_some hat

/-- What may follow a text so that cutting the whole cuts the text and then the rest: nothing,
or a marker. -/
def StartsMarked (b : List Char) : Prop := b = [] ∨ ∃ ds r, Digits ds ∧ b = markerText ds ++ r

theorem StartsMarked.opens {b : List Char} (h : StartsMarked b) : Opens b := by
  rcases h with rfl | ⟨ds, r, -, rfl⟩
  · exact .inl rfl
  · exact .inr ⟨_, by rw [markerText_eq]; rfl⟩

theorem StartsMarked.lead {b : List Char} (h : StartsMarked b) : (splitMarkers b).1 = [] := by
  rcases h with rfl | ⟨ds, r, hd, rfl⟩
  · rw [splitMarkers_nil]
  · rw [splitMarkers_markerText hd]

/-- Cutting a text followed by a marker cuts the text, then the marker and what follows it. -/
theorem splitMarkers_append (a : List Char) {b : List Char} (hb : StartsMarked b) :
    splitMarkers (a ++ b) = ((splitMarkers a).1, (splitMarkers a).2 ++ (splitMarkers b).2) := by
  fun_induction splitMarkers a with
  | case1 =>
    rw [List.nil_append]
    exact Prod.ext hb.lead (List.nil_append _).symm
  | case2 c rest ds after hat hlt t ms hsplit ih =>
    have hat' : markerAt? (c :: (rest ++ b)) = some (ds, after ++ b) := by
      rw [← List.cons_append, markerAt?_append (List.cons_ne_nil _ _) hb.opens, hat]
      rfl
    rw [List.cons_append, splitMarkers_of_some hat', ih, hsplit]
    simp
  | case3 c rest ds after hat hlt t ms hsplit ih =>
    have := congrArg List.length (markerAt?_eq_some hat).2
    simp [markerText_eq] at this
    omega
  | case4 c rest hat t ms hsplit ih =>
    have hat' : markerAt? (c :: (rest ++ b)) = none := by
      rw [← List.cons_append, markerAt?_append (List.cons_ne_nil _ _) hb.opens, hat]
      rfl
    rw [List.cons_append, splitMarkers_of_none hat', ih, hsplit]

/-- Cutting a text and writing its pieces back gives the text. -/
theorem splitMarkers_rebuild (a : List Char) :
    (splitMarkers a).1 ++ ((splitMarkers a).2.map fun x => markerText x.1 ++ x.2).flatten = a := by
  fun_induction splitMarkers a with
  | case1 => rfl
  | case2 c rest ds after hat hlt t ms hsplit ih =>
    rw [hsplit] at ih
    simp only [List.map_cons, List.flatten_cons, List.nil_append, ← List.append_assoc]
    rw [List.append_assoc, ih, (markerAt?_eq_some hat).2]
  | case3 c rest ds after hat hlt t ms hsplit ih =>
    rw [hsplit] at ih
    simp only [List.cons_append, ih]
  | case4 c rest hat t ms hsplit ih =>
    rw [hsplit] at ih
    simp only [List.cons_append, ih]

/-- The markers a cut finds have digits. -/
theorem digits_of_mem_splitMarkers {a : List Char} {x : List Char × List Char}
    (hx : x ∈ (splitMarkers a).2) : Digits x.1 := by
  fun_induction splitMarkers a with
  | case1 => simp at hx
  | case2 c rest ds after hat hlt t ms hsplit ih =>
    rw [hsplit] at ih
    rcases List.mem_cons.1 hx with rfl | hx
    · exact (markerAt?_eq_some hat).1
    · exact ih hx
  | case3 c rest ds after hat hlt t ms hsplit ih =>
    rw [hsplit] at ih
    exact ih hx
  | case4 c rest hat t ms hsplit ih =>
    rw [hsplit] at ih
    exact ih hx

/-- A text holds no marker at all. -/
def Plain (t : List Char) : Prop := ∀ ds, Digits ds → ¬ markerText ds <:+: t

theorem markerAt?_of_prefix {ds cs : List Char} (hd : Digits ds) (h : markerText ds <+: cs) :
    markerAt? cs ≠ none := by
  obtain ⟨r, rfl⟩ := h
  rw [markerAt?_markerText hd]
  simp

theorem plain_cons {c : Char} {t rest : List Char} (hat : markerAt? (c :: (t ++ rest)) = none)
    (ht : Plain t) : Plain (c :: t) := by
  intro ds hd hin
  rcases List.infix_cons_iff.1 hin with hp | hi
  · exact markerAt?_of_prefix hd (hp.trans (List.prefix_append _ _)) (by simpa using hat)
  · exact ht ds hd hi

/-- The texts a cut leaves between markers hold no marker. -/
theorem plain_splitMarkers (a : List Char) :
    Plain (splitMarkers a).1 ∧ ∀ x ∈ (splitMarkers a).2, Plain x.2 := by
  fun_induction splitMarkers a with
  | case1 => exact ⟨fun ds hd h => by simpa [markerText_eq] using h.length_le, by simp⟩
  | case2 c rest ds after hat hlt t ms hsplit ih =>
    rw [hsplit] at ih
    refine ⟨fun ds hd h => by simpa [markerText_eq] using h.length_le, ?_⟩
    intro x hx
    rcases List.mem_cons.1 hx with rfl | hx
    · exact ih.1
    · exact ih.2 x hx
  | case3 c rest ds after hat hlt t ms hsplit ih =>
    have := congrArg List.length (markerAt?_eq_some hat).2
    simp [markerText_eq] at this
    omega
  | case4 c rest hat t ms hsplit ih =>
    rw [hsplit] at ih
    refine ⟨?_, ih.2⟩
    have hre := splitMarkers_rebuild rest
    rw [hsplit] at hre
    rw [← hre] at hat
    exact plain_cons (by simpa using hat) ih.1

/-- A marker inside a text that `b` follows lies in the text or in `b`, when `b` opens with
`<<`. -/
theorem infix_append_opens {ds a b : List Char} (hd : Digits ds) (hb : Opens b)
    (h : markerText ds <:+: a ++ b) : markerText ds <:+: a ∨ markerText ds <:+: b := by
  obtain ⟨u, v, huv⟩ := h
  rcases List.append_eq_append_iff.1 huv with ⟨a', ha, -⟩ | ⟨c', hc, hb'⟩
  · exact .inl ⟨u, a', by rw [ha, List.append_assoc]⟩
  · rcases List.append_eq_append_iff.1 hc with ⟨u', hu, hm⟩ | ⟨u'', hu, hc'⟩
    · by_cases hu' : u' = []
      · subst hu'
        exact .inr ⟨[], v, by rw [hb']; simp [hm]⟩
      · by_cases hc'' : c' = []
        · subst hc''
          exact .inl ⟨u, [], by rw [hu]; simp [hm]⟩
        · rcases hb with rfl | ⟨r, rfl⟩
          · exact (hc'' (List.append_eq_nil_iff.1 hb'.symm).1).elim
          · exact (not_opens_of_split hd hu' hc'' hm hb'.symm).elim
    · exact .inr ⟨u'', v, by rw [hb', hc']⟩

/-- A marker inside a marker and what follows it is that marker, or lies in what follows. -/
theorem infix_markerText_append {ds ds' rest : List Char} (hd : Digits ds) (hd' : Digits ds')
    (h : markerText ds <:+: markerText ds' ++ rest) : ds = ds' ∨ markerText ds <:+: rest := by
  obtain ⟨u, v, huv⟩ := h
  by_cases hu : u = []
  · subst hu
    have h1 := markerAt?_markerText hd v
    rw [List.nil_append] at huv
    rw [huv, markerAt?_markerText hd'] at h1
    exact .inl (Prod.ext_iff.1 (Option.some.inj h1)).1.symm
  · rw [List.append_assoc] at huv
    rcases List.append_eq_append_iff.1 huv with ⟨a', hm, hr⟩ | ⟨c', -, hr⟩
    · by_cases ha' : a' = []
      · subst ha'
        exact .inr ⟨[], v, by simpa using hr⟩
      · obtain ⟨r, hr'⟩ : ∃ r, markerText ds ++ v = '<' :: '<' :: r :=
          ⟨_, by rw [markerText_eq]; rfl⟩
        exact (not_opens_of_split hd' hu ha' hm (hr.symm.trans hr')).elim
    · exact .inr ⟨c', v, by rw [hr, List.append_assoc]⟩

/-! ### Markers that name positions -/

/-- The position a marker's digits name: ASCII digits with a value that fits a 64-bit word. -/
def positionOf? (ds : List Char) : Option Nat := parseUnsigned (String.ofList ds)

/-- A text in which no marker names a position. -/
def Unmarked (t : List Char) : Prop :=
  ∀ ds, Digits ds → (positionOf? ds).isSome → ¬ markerText ds <:+: t

theorem Plain.unmarked {t : List Char} (h : Plain t) : Unmarked t := fun ds hd _ => h ds hd

/-- The markers a cut finds in a text where no marker names a position name none. -/
theorem positionOf?_of_unmarked {a : List Char} (ha : Unmarked a) {x : List Char × List Char}
    (hx : x ∈ (splitMarkers a).2) : positionOf? x.1 = none := by
  have hd := digits_of_mem_splitMarkers hx
  cases hp : positionOf? x.1 with
  | none => rfl
  | some p =>
    refine (ha x.1 hd (by simp [hp]) ?_).elim
    obtain ⟨ms₁, ms₂, hms⟩ := List.append_of_mem hx
    refine ⟨(splitMarkers a).1 ++ (ms₁.map fun x => markerText x.1 ++ x.2).flatten,
      x.2 ++ (ms₂.map fun x => markerText x.1 ++ x.2).flatten, ?_⟩
    conv_rhs => rw [← splitMarkers_rebuild a, hms]
    simp

theorem positioned_cons_some {ds t : List Char} {rest : List (List Char × List Char)} {p : Nat}
    (h : positionOf? ds = some p) :
    positioned ((ds, t) :: rest) =
      (p, t ++ ((rest.takeWhile fun m => (positionOf? m.1).isNone).flatMap
        fun m => markerText m.1 ++ m.2)) :: positioned rest := by
  simp only [positioned]
  rw [show parseUnsigned (String.ofList ds) = some p from h]
  rfl

theorem positioned_cons_none {ds t : List Char} {rest : List (List Char × List Char)}
    (h : positionOf? ds = none) : positioned ((ds, t) :: rest) = positioned rest := by
  simp only [positioned]
  rw [show parseUnsigned (String.ofList ds) = none from h]

/-- Markers that name no position before the first that does are skipped. -/
theorem positioned_unparsed_append {ms : List (List Char × List Char)}
    (h : ∀ x ∈ ms, positionOf? x.1 = none) (ms' : List (List Char × List Char)) :
    positioned (ms ++ ms') = positioned ms' := by
  induction ms with
  | nil => rfl
  | cons x ms ih =>
    rw [List.cons_append, positioned_cons_none (h x (by simp)),
      ih fun y hy => h y (List.mem_cons_of_mem _ hy)]

/-- A list of markers whose first names a position. -/
def StartsNamed (ms : List (List Char × List Char)) : Prop :=
  ∀ x ∈ ms.head?, (positionOf? x.1).isSome

theorem takeWhile_unparsed_append {ms ms' : List (List Char × List Char)}
    (h : ∀ x ∈ ms, positionOf? x.1 = none) (h' : StartsNamed ms') :
    (ms ++ ms').takeWhile (fun m => (positionOf? m.1).isNone) = ms := by
  rw [List.takeWhile_append_of_pos (by simpa [Option.isNone_iff_eq_none] using h)]
  rcases ms' with _ | ⟨y, ys⟩
  · simp
  · have hy := h' y (by simp)
    simp [Option.isSome_iff_ne_none.1 hy, Option.isNone_iff_eq_none]

/-! ### Cutting an answer at the markers that name positions -/

/-- A body cut at its markers that name positions: the text before the first of them, then
each one's digits with the text up to the next. Neither the text before nor the text after any
of them holds a marker that names a position. -/
structure Cut (body lead : List Char) (parts : List (List Char × List Char)) : Prop where
  eq : body = lead ++ (parts.map fun x => markerText x.1 ++ x.2).flatten
  named : ∀ x ∈ parts, Digits x.1 ∧ (positionOf? x.1).isSome
  lead_unmarked : Unmarked lead
  unmarked : ∀ x ∈ parts, Unmarked x.2

/-- The pieces of a cut, read from the markers the reader finds. -/
theorem positioned_parts {parts : List (List Char × List Char)}
    (h : ∀ x ∈ parts, Digits x.1 ∧ (positionOf? x.1).isSome ∧ Unmarked x.2) :
    StartsMarked (parts.map fun x => markerText x.1 ++ x.2).flatten ∧
      StartsNamed (splitMarkers (parts.map fun x => markerText x.1 ++ x.2).flatten).2 ∧
      positioned (splitMarkers (parts.map fun x => markerText x.1 ++ x.2).flatten).2 =
        parts.filterMap fun x => (positionOf? x.1).map fun p => (p, x.2) := by
  induction parts with
  | nil => exact ⟨.inl rfl, by simp [splitMarkers_nil, StartsNamed], by simp [splitMarkers_nil, positioned]⟩
  | cons x parts ih =>
    obtain ⟨hd, hp, hu⟩ := h x (by simp)
    obtain ⟨hm, hn, hpos⟩ := ih fun y hy => h y (List.mem_cons_of_mem _ hy)
    obtain ⟨p, hp⟩ := Option.isSome_iff_exists.1 hp
    have hunp : ∀ y ∈ (splitMarkers x.2).2, positionOf? y.1 = none := fun y hy =>
      positionOf?_of_unmarked hu hy
    simp only [List.map_cons, List.flatten_cons, List.append_assoc]
    rw [splitMarkers_markerText hd, splitMarkers_append _ hm]
    refine ⟨.inr ⟨x.1, _, hd, rfl⟩, by simp [StartsNamed, hp], ?_⟩
    rw [positioned_cons_some hp, takeWhile_unparsed_append hunp hn,
      positioned_unparsed_append hunp, hpos, List.filterMap_cons, hp]
    have hre := splitMarkers_rebuild x.2
    simp only [List.flatMap_def, Option.map_some, hre]

/-- The reader finds exactly the markers of a cut, each with its text. -/
theorem positioned_of_cut {body lead : List Char} {parts : List (List Char × List Char)}
    (h : Cut body lead parts) :
    positioned (splitMarkers body).2 = parts.filterMap fun x => (positionOf? x.1).map fun p => (p, x.2) := by
  obtain ⟨hm, -, hpos⟩ := positioned_parts fun x hx =>
    ⟨(h.named x hx).1, (h.named x hx).2, h.unmarked x hx⟩
  rw [h.eq, splitMarkers_append _ hm, positioned_unparsed_append
    (fun y hy => positionOf?_of_unmarked h.lead_unmarked hy), hpos]

/-- The markers a reader finds, each one that names no position written back into the text
before it: the text that goes before the first marker that names a position, and those markers
with their texts. -/
def regroup : List (List Char × List Char) → List Char × List (List Char × List Char)
  | [] => ([], [])
  | (ds, t) :: rest =>
    if (positionOf? ds).isSome then ([], (ds, t ++ (regroup rest).1) :: (regroup rest).2)
    else (markerText ds ++ t ++ (regroup rest).1, (regroup rest).2)

theorem regroup_rebuild (ms : List (List Char × List Char)) :
    (regroup ms).1 ++ ((regroup ms).2.map fun x => markerText x.1 ++ x.2).flatten =
      (ms.map fun x => markerText x.1 ++ x.2).flatten := by
  induction ms with
  | nil => rfl
  | cons x ms ih =>
    obtain ⟨ds, t⟩ := x
    by_cases hp : (positionOf? ds).isSome
    · simp [regroup, hp, ← ih]
    · simp [regroup, hp, ← ih]

theorem named_of_mem_regroup {ms : List (List Char × List Char)} {x : List Char × List Char}
    (hx : x ∈ (regroup ms).2) : (positionOf? x.1).isSome ∧ ∃ t, (x.1, t) ∈ ms := by
  induction ms with
  | nil => simp [regroup] at hx
  | cons y ms ih =>
    obtain ⟨ds, t⟩ := y
    by_cases hp : (positionOf? ds).isSome
    · simp only [regroup, hp, if_true, List.mem_cons] at hx
      rcases hx with rfl | hx
      · exact ⟨hp, t, by simp⟩
      · obtain ⟨hx', t', ht'⟩ := ih hx
        exact ⟨hx', t', List.mem_cons_of_mem _ ht'⟩
    · simp only [regroup, hp, Bool.false_eq_true, if_false] at hx
      obtain ⟨hx', t', ht'⟩ := ih hx
      exact ⟨hx', t', List.mem_cons_of_mem _ ht'⟩

/-- A plain text followed by the markers that name no position, each with its plain text, holds
no marker that names a position. -/
theorem unmarked_regroup {ms : List (List Char × List Char)} (hms : ∀ y ∈ ms, Digits y.1 ∧ Plain y.2)
    {t : List Char} (ht : Plain t) :
    Unmarked (t ++ (regroup ms).1) ∧ ∀ x ∈ (regroup ms).2, Unmarked x.2 := by
  induction ms generalizing t with
  | nil => simpa [regroup] using ht.unmarked
  | cons y ms ih =>
    obtain ⟨ds, t'⟩ := y
    obtain ⟨hd, ht'⟩ := hms (ds, t') (by simp)
    have ih' := ih (fun z hz => hms z (List.mem_cons_of_mem _ hz)) ht'
    by_cases hp : (positionOf? ds).isSome
    · simp only [regroup, hp, if_true, List.append_nil, List.mem_cons, forall_eq_or_imp]
      exact ⟨ht.unmarked, ih'.1, ih'.2⟩
    · simp only [regroup, hp, Bool.false_eq_true, if_false]
      refine ⟨?_, ih'.2⟩
      intro ds' hd' hp' hin
      rw [List.append_assoc] at hin
      rcases infix_append_opens hd' (.inr ⟨_, by rw [markerText_eq]; rfl⟩) hin with hin | hin
      · exact ht ds' hd' hin
      · rcases infix_markerText_append hd' hd hin with rfl | hin
        · exact hp hp'
        · exact ih'.1 ds' hd' hp' hin

/-- Every text can be cut at its markers that name positions. -/
theorem exists_cut (body : List Char) : ∃ lead parts, Cut body lead parts := by
  have hplain := plain_splitMarkers body
  have hms : ∀ y ∈ (splitMarkers body).2, Digits y.1 ∧ Plain y.2 := fun y hy =>
    ⟨digits_of_mem_splitMarkers hy, hplain.2 y hy⟩
  obtain ⟨hlead, hparts⟩ := unmarked_regroup hms hplain.1
  refine ⟨(splitMarkers body).1 ++ (regroup (splitMarkers body).2).1,
    (regroup (splitMarkers body).2).2, ⟨?_, ?_, hlead, hparts⟩⟩
  · rw [List.append_assoc, regroup_rebuild, splitMarkers_rebuild]
  · intro x hx
    obtain ⟨hp, t, ht⟩ := named_of_mem_regroup hx
    exact ⟨digits_of_mem_splitMarkers (x := (x.1, t)) ht, hp⟩

/-! ### Separators -/

/-- A word without the character `c` that starts a text ends before the first `c`. -/
theorem prefix_of_prefix_sep {w x y : List Char} {c : Char} (hc : c ∉ w)
    (h : w <+: x ++ c :: y) : w <+: x := by
  induction x generalizing w with
  | nil =>
    rcases List.prefix_cons_iff.1 h with rfl | ⟨t, rfl, _⟩
    · exact List.nil_prefix
    · exact absurd List.mem_cons_self hc
  | cons a x ih =>
    rcases List.prefix_cons_iff.1 h with rfl | ⟨t, rfl, ht⟩
    · exact List.nil_prefix
    · exact List.cons_prefix_cons.2 ⟨rfl, ih (fun h' => hc (List.mem_cons_of_mem a h')) ht⟩

/-- A word without the character `c` lies on one side of every `c` of a text. -/
theorem infix_sep {w x y : List Char} {c : Char} (hc : c ∉ w) (h : w <:+: x ++ c :: y) :
    w <:+: x ∨ w <:+: y := by
  induction x with
  | nil =>
    rcases List.infix_cons_iff.1 h with hp | hi
    · left
      rcases List.prefix_cons_iff.1 hp with rfl | ⟨t, rfl, _⟩
      · exact List.nil_infix
      · exact absurd List.mem_cons_self hc
    · exact .inr hi
  | cons a x ih =>
    rcases List.infix_cons_iff.1 h with hp | hi
    · exact .inl (prefix_of_prefix_sep hc hp).isInfix
    · rcases ih hi with hx | hy
      · exact .inl (hx.trans (List.infix_cons (List.infix_refl x)))
      · exact .inr hy

/-- A nonempty word without line breaks that is in no line is in no text of whole lines. -/
theorem not_infix_lines {w : List Char} {ls : List (List Char)} (hw : w ≠ []) (hc : '\n' ∉ w)
    (h : ∀ l ∈ ls, ¬ w <:+: l) : ¬ w <:+: ls.flatMap (· ++ ['\n']) := by
  induction ls with
  | nil => simpa using hw
  | cons l ls ih =>
    intro hi
    rw [List.flatMap_cons, List.append_assoc] at hi
    rcases infix_sep hc hi with hl | hr
    · exact h l List.mem_cons_self hl
    · exact ih (fun l' hl' => h l' (List.mem_cons_of_mem l hl')) hr

/-! ### The end mark -/

/-- `body` is what stands in `s` before the first occurrence of `mark`, or all of `s` when
`mark` does not occur. -/
def EndsBefore (mark s body : List Char) : Prop :=
  body <+: s ∧ (body = s ∨ body ++ mark <+: s) ∧ ∀ u, u ++ mark <+: s → body.length ≤ u.length

theorem before_endsBefore (mark s : List Char) :
    EndsBefore mark s (before mark s) := by
  induction s with
  | nil => exact ⟨List.prefix_refl _, .inl rfl, fun u _ => by simp [before]⟩
  | cons c cs ih =>
    by_cases hp : mark.isPrefixOf (c :: cs)
    · simp only [before, hp, if_true]
      exact ⟨List.nil_prefix, .inr (List.isPrefixOf_iff_prefix.1 hp), fun u _ => Nat.zero_le _⟩
    · simp only [before, hp, Bool.false_eq_true, if_false]
      obtain ⟨h1, h2, h3⟩ := ih
      refine ⟨List.cons_prefix_cons.2 ⟨rfl, h1⟩, ?_, ?_⟩
      · rcases h2 with h2 | h2
        · exact .inl (by rw [h2])
        · exact .inr (List.cons_prefix_cons.2 ⟨rfl, h2⟩)
      · intro u hu
        cases u with
        | nil => exact absurd (List.isPrefixOf_iff_prefix.2 hu) hp
        | cons a u =>
          have := h3 u (List.cons_prefix_cons.1 hu).2
          simp only [List.length_cons]
          omega

theorem before_self {mark : List Char} (hm : mark ≠ []) (rest : List Char) :
    before mark (mark ++ rest) = [] := by
  obtain ⟨c, cs, rfl⟩ := List.exists_cons_of_ne_nil hm
  simp [before, List.isPrefixOf_iff_prefix]

/-- The scan for the mark passes over a text that holds no mark and ends in a separator that
is not in the mark. -/
theorem before_append_sep {mark l : List Char} {c : Char} (hc : c ∉ mark) (h : ¬ mark <:+: l)
    (rest : List Char) : before mark (l ++ c :: rest) = l ++ c :: before mark rest := by
  induction l with
  | nil =>
    have hm : mark ≠ [] := fun h' => h (h' ▸ List.nil_infix)
    have hp : ¬ mark <+: c :: rest := fun hp => by
      rcases List.prefix_cons_iff.1 hp with h' | ⟨t, rfl, _⟩
      · exact hm h'
      · exact hc List.mem_cons_self
    simp [before, List.isPrefixOf_iff_prefix, hp]
  | cons a l ih =>
    have hp : ¬ mark <+: a :: (l ++ c :: rest) := fun hp =>
      h (prefix_of_prefix_sep hc (x := a :: l) hp).isInfix
    have hl : ¬ mark <:+: l := fun hl => h (hl.trans (List.infix_cons (List.infix_refl l)))
    simp [before, List.isPrefixOf_iff_prefix, hp, ih hl]

theorem before_lines {mark : List Char} (hc : '\n' ∉ mark) {ls : List (List Char)}
    (h : ∀ l ∈ ls, ¬ mark <:+: l) (rest : List Char) :
    before mark (ls.flatMap (· ++ ['\n']) ++ rest) = ls.flatMap (· ++ ['\n']) ++ before mark rest := by
  induction ls with
  | nil => rfl
  | cons l ls ih =>
    rw [List.flatMap_cons, List.append_assoc, List.append_assoc, List.singleton_append,
      before_append_sep hc (h l List.mem_cons_self),
      ih (fun l' hl' => h l' (List.mem_cons_of_mem l hl'))]
    simp

end SubtitleQueue.Batch
