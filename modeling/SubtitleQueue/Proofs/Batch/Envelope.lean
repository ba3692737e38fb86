import SubtitleQueue.Proofs.Batch.Markers
import SubtitleQueue.Proofs.Subtitle.Timing

/-!
What the batch envelope's reader returns. For every answer, the positions come out strictly
increasing and each requested position maps to the trimmed text of the last of its markers whose
text is not blank (`decode_lookup`); positions that were not requested never appear. For an
envelope the writer made of items with distinct positions whose texts and context lines hold
neither the end mark nor a marker, the reader gives back every item whose text is not blank,
trimmed (`decode_encode_lookup`).
-/

namespace SubtitleQueue.Batch

open Text

/-! ### What a decoded answer holds -/

/-- The text an answer gives a position: the trimmed text of the last of its markers whose
text is not blank. -/
def answerFor (parts : List (List Char × List Char)) (p : Nat) : Option String :=
  (parts.filterMap fun x =>
    if positionOf? x.1 = some p ∧ trim (String.ofList x.2) ≠ "" then some (trim (String.ofList x.2))
    else none).getLast?

theorem lookup_filterMap_keys (qs : List Nat) (g : Nat → Option (Nat × String)) (p : Nat) :
    (qs.filterMap fun q => (g q).map fun x => (q, x.2)).lookup p =
      if p ∈ qs then (g p).map (·.2) else none := by
  induction qs with
  | nil => rfl
  | cons q qs ih =>
    cases hq : g q with
    | none =>
      rw [List.filterMap_cons, hq, Option.map_none, ih]
      by_cases hpq : p = q
      · subst hpq; simp [hq]
      · simp [hpq]
    | some t =>
      rw [List.filterMap_cons, hq, Option.map_some, List.lookup_cons, ih]
      by_cases hpq : p = q
      · subst hpq; simp [hq]
      · have : (p == q) = false := by simpa using hpq
        simp [this, hpq]

theorem find?_reverse_map {l : List (Nat × String)} {p : Nat} :
    (l.reverse.find? (·.1 == p)).map (·.2) = (l.filterMap fun x => if x.1 = p then some x.2 else none).getLast? := by
  induction l with
  | nil => rfl
  | cons x l ih =>
    rw [List.reverse_cons, List.find?_append, Option.map_or, ih, List.filterMap_cons]
    by_cases hx : x.1 = p
    · simp [hx, List.getLast?_cons]
    · simp [hx]

theorem nodup_eraseDups (l : List Nat) : l.eraseDups.Nodup := by
  induction h : l.length using Nat.strong_induction_on generalizing l with
  | _ n ih =>
    rcases l with _ | ⟨a, as⟩
    · simp
    · rw [List.eraseDups_cons, List.nodup_cons]
      refine ⟨by simp [List.mem_eraseDups], ih _ ?_ _ rfl⟩
      have := List.length_filter_le (fun b => !b == a) as
      simp at h
      omega

/-- Looking a position up in decode's answer: the sorted, deduplicated keys hold exactly the
positions found, and the text is the last one found for it. -/
theorem lookup_found (found : List (Nat × String)) (p : Nat) :
    (if p ∈ (found.map (·.1)).eraseDups.mergeSort (fun a b => decide (a ≤ b)) then
      (found.reverse.find? (·.1 == p)).map (·.2) else none) =
      (found.filterMap fun x => if x.1 = p then some x.2 else none).getLast? := by
  rw [find?_reverse_map]
  split_ifs with hp
  · rfl
  · have hkey : ∀ x ∈ found, x.1 ≠ p := by
      intro x hx hxp
      exact hp (List.mem_mergeSort.2 (List.mem_eraseDups.2 (List.mem_map.2 ⟨x, hx, hxp⟩)))
    rw [List.filterMap_eq_nil_iff.2 fun x hx => if_neg (hkey x hx)]
    rfl

theorem decode_lookup {answer : String} {requested : List Item} {lead : List Char}
    {parts : List (List Char × List Char)} (h : Cut (before "<<END>>".toList answer.toList) lead parts)
    (p : Nat) :
    (decode answer requested).lookup p =
      if requested.any (·.1 == p) then answerFor parts p else none := by
  simp only [decode]
  rw [positioned_of_cut h, lookup_filterMap_keys, lookup_found, List.filterMap_filterMap,
    List.filterMap_filterMap]
  split_ifs with hreq
  · unfold answerFor
    congr 1
    apply List.filterMap_congr
    intro x _
    cases hx : positionOf? x.1 with
    | none => simp
    | some q =>
      by_cases ht : trim (String.ofList x.2) = ""
      · simp [ht]
      · by_cases hqp : q = p
        · subst hqp; simp [hreq, ht]
        · simp [ht, hqp]
  · rw [List.filterMap_eq_nil_iff.2]
    · rfl
    intro x _
    cases hx : positionOf? x.1 with
    | none => simp
    | some q =>
      by_cases hqp : q = p
      · subst hqp; simp [hreq]
      · by_cases ht : trim (String.ofList x.2) = "" <;> simp [ht, hqp]

/-- The keys of a list built from some of `qs` come in the order of `qs`. -/
theorem keys_filterMap_sublist (qs : List Nat) (g : Nat → Option (Nat × String)) :
    List.Sublist ((qs.filterMap fun q => (g q).map fun x => (q, x.2)).map (·.1)) qs := by
  induction qs with
  | nil => exact List.Sublist.slnil
  | cons q qs ih =>
    cases hq : g q with
    | none => simpa [List.filterMap_cons, hq] using ih.cons q
    | some x => simpa [List.filterMap_cons, hq] using ih.cons_cons q

/-- A sorted list without repeats increases strictly. -/
theorem increasing_of_sorted {l : List Nat} (hs : l.Pairwise fun a b => decide (a ≤ b) = true)
    (hn : l.Nodup) : l.Pairwise (· < ·) :=
  (hs.and hn).imp fun ⟨h1, h2⟩ => Nat.lt_of_le_of_ne (by simpa using h1) h2

/-- Decode's positions come out strictly increasing, so each has one text. -/
theorem decode_keys_increasing (answer : String) (requested : List Item) :
    ((decode answer requested).map (·.1)).Pairwise (· < ·) := by
  simp only [decode]
  refine List.Pairwise.sublist (keys_filterMap_sublist _ _) (increasing_of_sorted ?_ ?_)
  · exact List.pairwise_mergeSort (fun a b c hab hbc => by simp at *; omega)
      (fun a b => by simp; omega) _
  · exact (List.mergeSort_perm _ _).nodup_iff.2 (nodup_eraseDups _)

/-! ### The written envelope -/

/-- The lines the envelope writes before its entries. -/
def headLines (pre : List String) : List (List Char) :=
  if pre.isEmpty then [] else "[Context before, do not translate]".toList :: pre.map String.toList ++ [[]]

/-- The two lines of an entry: its marker and its text. -/
def entryLines (it : Item) : List (List Char) := [markerText (toString it.1).toList, it.2.toList]

theorem entry_toList (p : Nat) (t : String) :
    ("<<ENTRY_" ++ toString p ++ ">>\n" ++ t ++ "\n").toList =
      (entryLines (p, t)).flatMap (· ++ ['\n']) := by
  have hopen : "<<ENTRY_".toList = ['<', '<', 'E', 'N', 'T', 'R', 'Y', '_'] := by simp
  have hclose : ">>\n".toList = ['>', '>', '\n'] := by simp
  have hbreak : "\n".toList = ['\n'] := by simp
  simp only [String.toList_append, hopen, hclose, hbreak, entryLines, markerText_eq]
  simp

theorem entries_toList (items : List Item) :
    (String.join (items.map fun (p, t) => "<<ENTRY_" ++ toString p ++ ">>\n" ++ t ++ "\n")).toList =
      (items.flatMap entryLines).flatMap (· ++ ['\n']) := by
  induction items with
  | nil => rfl
  | cons it items ih =>
    obtain ⟨p, t⟩ := it
    rw [List.map_cons, String.join_cons, String.toList_append, ih, List.flatMap_cons,
      List.flatMap_append, entry_toList]

theorem encode_toList (items : List Item) (pre post : List String) :
    ∃ tail, (encode items pre post).toList =
      (headLines pre ++ items.flatMap entryLines).flatMap (· ++ ['\n']) ++ "<<END>>".toList ++ tail := by
  refine ⟨(if post.isEmpty then "" else "\n\n[Context after, do not translate]\n" ++ "\n".intercalate post).toList, ?_⟩
  simp only [encode, String.toList_append, List.flatMap_append, entries_toList]
  congr 2
  unfold headLines
  split <;> simp [String.toList_join, List.flatMap_map]

/-! ### Positions as markers write them -/

theorem digits_toString (p : Nat) : Digits (toString p).toList := by
  refine ⟨by simp, fun c hc => ?_⟩
  have : c.isDigit = true :=
    Nat.isDigit_of_mem_toDigits (by decide) (by decide) (show c ∈ Nat.toDigits 10 p by simpa using hc)
  simp [isDecimalDigit, this]

theorem positionOf?_toString {p : Nat} (h : p ≤ wordMax) : positionOf? (toString p).toList = some p := by
  rw [positionOf?, String.ofList_toList, Subtitle.parseUnsigned_toString h]

/-- A marker's digits that name a position are ASCII digits: the number reader takes no
other digit. -/
theorem isDigit_of_positionOf? {ds : List Char} (hd : Digits ds) (h : (positionOf? ds).isSome) :
    ∀ c ∈ ds, c.isDigit = true := by
  obtain ⟨d, ds', rfl⟩ := List.exists_cons_of_ne_nil hd.1
  have hplus : d ≠ '+' := fun h' => by
    have := hd.2 d List.mem_cons_self
    rw [h'] at this
    simp [isDecimalDigit] at this
  cases hv : digitsValue (d :: ds') with
  | none => simp [positionOf?, parseUnsigned, hplus, hv] at h
  | some n => exact Subtitle.isDigit_of_digitsValue hv

/-- A character that is neither a decimal digit nor one of the marker's own is not in a marker. -/
theorem not_mem_markerText {ds : List Char} {c : Char} (hd : Digits ds) (hc : isDecimalDigit c = false)
    (hc' : c ∉ "<ENTRY_>".toList) : c ∉ markerText ds := by
  have hfix : ∀ x ∈ "<<ENTRY_".toList ++ ">>".toList, x ∈ "<ENTRY_>".toList := by simp
  intro hm
  unfold markerText at hm
  rw [List.mem_append, List.mem_append] at hm
  rcases hm with (h | h) | h
  · exact hc' (hfix c (List.mem_append_left _ h))
  · exact absurd (hd.2 c h) (by simp [hc])
  · exact hc' (hfix c (List.mem_append_right _ h))

theorem markerText_ne_nil (ds : List Char) : markerText ds ≠ [] := by
  simp [markerText_eq]

theorem newline_not_mem_markerText {ds : List Char} (hd : Digits ds) : '\n' ∉ markerText ds :=
  not_mem_markerText hd (by decide) (by simp)

/-! ### Text that fits in an envelope -/

/-- Text that an envelope carries unchanged: it holds no end mark and no entry marker written
with ASCII digits. -/
def Clean (t : String) : Prop :=
  ¬ "<<END>>".toList <:+: t.toList ∧
    ∀ ds : List Char, ds ≠ [] → (∀ c ∈ ds, c.isDigit = true) → ¬ markerText ds <:+: t.toList

theorem Clean.unmarked {t : String} (h : Clean t) : Unmarked t.toList := fun ds hd hs =>
  h.2 ds hd.1 (isDigit_of_positionOf? hd hs)

theorem unmarked_of_not_mem {l : List Char} (h : '<' ∉ l) : Unmarked l := fun ds _ _ hi =>
  h (hi.mem (by simp [markerText_eq]))

/-- Whole lines hold no marker that no single line holds. -/
theorem unmarked_lines {ls : List (List Char)} (h : ∀ l ∈ ls, Unmarked l) :
    Unmarked (ls.flatMap (· ++ ['\n'])) := fun ds hd hs =>
  not_infix_lines (markerText_ne_nil ds) (newline_not_mem_markerText hd) fun l hl => h l hl ds hd hs

/-- The line breaks around an entry's text bring in no marker. -/
theorem unmarked_wrap {t : List Char} (h : Unmarked t) : Unmarked ('\n' :: t ++ ['\n']) := by
  intro ds hd hs hi
  have hn := newline_not_mem_markerText hd
  have hne := markerText_ne_nil ds
  rcases infix_sep (x := []) hn (by simpa using hi) with h0 | h1
  · exact hne (List.infix_nil.1 h0)
  · rcases infix_sep (x := t) (y := []) hn h1 with ht | h0
    · exact h ds hd hs ht
    · exact hne (List.infix_nil.1 h0)

theorem mem_headLines {pre : List String} {l : List Char} (h : l ∈ headLines pre) :
    l = "[Context before, do not translate]".toList ∨ l = [] ∨ ∃ s ∈ pre, l = s.toList := by
  unfold headLines at h
  split at h
  · simp at h
  · simp only [List.mem_cons, List.mem_append, List.mem_map, List.not_mem_nil, or_false] at h
    rcases h with (h | ⟨s, hs, rfl⟩) | h
    · exact .inl h
    · exact .inr (.inr ⟨s, hs, rfl⟩)
    · exact .inr (.inl h)

theorem mem_entryLines {items : List Item} {l : List Char} (h : l ∈ items.flatMap entryLines) :
    ∃ it ∈ items, l = markerText (toString it.1).toList ∨ l = it.2.toList := by
  obtain ⟨it, hit, hl⟩ := List.mem_flatMap.1 h
  simp only [entryLines, List.mem_cons, List.not_mem_nil, or_false] at hl
  exact ⟨it, hit, hl⟩

/-- The line breaks around an entry's text are trimmed away. -/
theorem trim_wrap (t : String) : trim (String.ofList ('\n' :: t.toList ++ ['\n'])) = trim t := by
  rw [trim_append_blank (by decide), trim_blank_cons (by decide),
    String.ofList_toList]

/-- With distinct positions, the texts kept for one position are those of its one item. -/
theorem getLast?_filterMap_key {items : List Item} (hnd : (items.map (·.1)).Nodup)
    (f : String → Option String) (p : Nat) :
    (items.filterMap fun it => if it.1 = p then f it.2 else none).getLast? =
      (items.lookup p).bind f := by
  induction items with
  | nil => rfl
  | cons it items ih =>
    obtain ⟨q, t⟩ := it
    rw [List.map_cons, List.nodup_cons] at hnd
    by_cases hqp : q = p
    · subst hqp
      have hrest : (items.filterMap fun it => if it.1 = q then f it.2 else none) = [] :=
        List.filterMap_eq_nil_iff.2 fun it hit => if_neg fun h => hnd.1 (List.mem_map.2 ⟨it, hit, h⟩)
      have hlook : List.lookup q ((q, t) :: items) = some t := by simp
      rw [hlook, Option.bind_some]
      cases hf : f t with
      | none => rw [List.filterMap_cons_none (by simp [hf]), hrest]; rfl
      | some u =>
        simp [hf, hrest]
    · have hpq : (p == q) = false := beq_eq_false_iff_ne.2 (Ne.symm hqp)
      rw [List.filterMap_cons_none (by simp [hqp]), ih hnd.2, List.lookup_cons, hpq]

theorem lookup_eq_none_of_any {items : List Item} {p : Nat}
    (h : ¬ (items.any fun it => it.1 == p) = true) : items.lookup p = none := by
  induction items with
  | nil => rfl
  | cons it items ih =>
    simp only [List.any_cons, Bool.or_eq_true, not_or] at h
    have hpq : (p == it.1) = false := beq_eq_false_iff_ne.2 fun e => h.1 (by simp [e])
    obtain ⟨q, t⟩ := it
    rw [List.lookup_cons, hpq]
    exact ih h.2

section Envelope

variable {items : List Item} {pre : List String}

theorem unmarked_headLines (hpre : ∀ s ∈ pre, Clean s) : ∀ l ∈ headLines pre, Unmarked l := by
  intro l hl
  rcases mem_headLines hl with rfl | rfl | ⟨s, hs, rfl⟩
  · exact unmarked_of_not_mem (by simp)
  · exact unmarked_of_not_mem (by simp)
  · exact (hpre s hs).unmarked

/-- No line of a clean envelope holds the end mark. -/
theorem no_end_in_lines (hpre : ∀ s ∈ pre, Clean s) (htexts : ∀ it ∈ items, Clean it.2) :
    ∀ l ∈ headLines pre ++ items.flatMap entryLines, ¬ "<<END>>".toList <:+: l := by
  have hlt : '<' ∈ "<<END>>".toList := by simp
  intro l hl
  rcases List.mem_append.1 hl with hl | hl
  · rcases mem_headLines hl with rfl | rfl | ⟨s, hs, rfl⟩
    · exact fun hi => absurd (hi.mem hlt) (by simp)
    · exact fun hi => absurd (hi.mem hlt) (by simp)
    · exact (hpre s hs).1
  · obtain ⟨it, hit, rfl | rfl⟩ := mem_entryLines hl
    · have hD : 'D' ∉ markerText (toString it.1).toList :=
        not_mem_markerText (digits_toString _) (by decide) (by simp)
      exact fun hi => hD (hi.mem (by simp))
    · exact (htexts it hit).1

theorem before_encode (post : List String) (hpre : ∀ s ∈ pre, Clean s)
    (htexts : ∀ it ∈ items, Clean it.2) :
    before "<<END>>".toList (encode items pre post).toList =
      (headLines pre ++ items.flatMap entryLines).flatMap (· ++ ['\n']) := by
  obtain ⟨tail, h⟩ := encode_toList items pre post
  rw [h, List.append_assoc, before_lines (by simp) (no_end_in_lines hpre htexts),
    before_self (by simp), List.append_nil]

/-- The parts of an envelope: each entry's marker, then its text between two line breaks. -/
def envelopeParts (items : List Item) : List (List Char × List Char) :=
  items.map fun it => ((toString it.1).toList, '\n' :: it.2.toList ++ ['\n'])

theorem lines_entryLines (items : List Item) :
    (items.flatMap entryLines).flatMap (· ++ ['\n']) =
      ((envelopeParts items).map fun x => markerText x.1 ++ x.2).flatten := by
  induction items with
  | nil => rfl
  | cons it items ih =>
    rw [List.flatMap_cons, List.flatMap_append, ih]
    simp [envelopeParts, entryLines]

/-- A clean envelope cuts into its head and one part per entry. -/
theorem cut_encode (post : List String) (hword : ∀ it ∈ items, it.1 ≤ wordMax)
    (hpre : ∀ s ∈ pre, Clean s) (htexts : ∀ it ∈ items, Clean it.2) :
    Cut (before "<<END>>".toList (encode items pre post).toList)
      ((headLines pre).flatMap (· ++ ['\n'])) (envelopeParts items) where
  eq := by rw [before_encode post hpre htexts, List.flatMap_append, lines_entryLines]
  named := by
    intro x hx
    obtain ⟨it, hit, rfl⟩ := List.mem_map.1 hx
    exact ⟨digits_toString _, by rw [positionOf?_toString (hword it hit)]; rfl⟩
  lead_unmarked := unmarked_lines (unmarked_headLines hpre)
  unmarked := by
    intro x hx
    obtain ⟨it, hit, rfl⟩ := List.mem_map.1 hx
    exact unmarked_wrap (htexts it hit).unmarked

/-- Decoding a clean envelope gives each item's trimmed text, unless it is blank. -/
theorem decode_encode_lookup (post : List String) (hpos : (items.map (·.1)).Nodup)
    (hword : ∀ it ∈ items, it.1 ≤ wordMax) (hpre : ∀ s ∈ pre, Clean s)
    (htexts : ∀ it ∈ items, Clean it.2) (p : Nat) :
    (decode (encode items pre post) items).lookup p =
      (items.lookup p).bind fun t => if trim t = "" then none else some (trim t) := by
  rw [decode_lookup (cut_encode post hword hpre htexts)]
  split_ifs with hreq
  · unfold answerFor envelopeParts
    rw [List.filterMap_map,
      ← getLast?_filterMap_key hpos (fun t => if trim t = "" then none else some (trim t)) p]
    congr 1
    apply List.filterMap_congr
    intro it hit
    simp only [Function.comp_apply, positionOf?_toString (hword it hit), trim_wrap]
    by_cases hp : it.1 = p <;> by_cases ht : trim it.2 = "" <;> simp [hp, ht]
  · rw [lookup_eq_none_of_any hreq]
    rfl

end Envelope

theorem clean_of_no_angle {t : String} (h : '<' ∉ t.toList) : Clean t :=
  ⟨fun hi => h (hi.mem (by simp)), fun ds _ _ hi => h (hi.mem (by simp [markerText_eq]))⟩

/-- The envelope's reader inverts its writer on clean items, and on any answer it keeps, for each
requested position, the last non-blank text of that position's markers, cut at the markers
that name positions and at the first end mark. -/
theorem decode_envelope (items : List Item) (pre post : List String)
    (hpos : (items.map (·.1)).Nodup) (hword : ∀ it ∈ items, it.1 ≤ wordMax)
    (hpre : ∀ s ∈ pre, Clean s) (htexts : ∀ it ∈ items, Clean it.2) :
    (∀ p, (decode (encode items pre post) items).lookup p =
        (items.lookup p).bind fun t => if trim t = "" then none else some (trim t)) ∧
    ∀ (answer : String) (requested : List Item),
      ((decode answer requested).map (·.1)).Pairwise (· < ·) ∧
      ∃ body, EndsBefore "<<END>>".toList answer.toList body ∧
        (∃ lead parts, Cut body lead parts) ∧
        ∀ lead parts, Cut body lead parts → ∀ p,
          (decode answer requested).lookup p =
            if requested.any (·.1 == p) then answerFor parts p else none :=
  ⟨decode_encode_lookup post hpos hword hpre htexts, fun answer requested =>
    ⟨decode_keys_increasing answer requested, _, before_endsBefore _ _, exists_cut _,
      fun _ _ h => decode_lookup h⟩⟩

theorem decode_envelope_sample :
    (([(1, " Hello "), (2, "  "), (7, "a\nb")] : List Item).map (·.1)).Nodup ∧
    (∀ it ∈ ([(1, " Hello "), (2, "  "), (7, "a\nb")] : List Item), it.1 ≤ wordMax) ∧
    (∀ s ∈ ["earlier line"], Clean s) ∧
    (∀ it ∈ ([(1, " Hello "), (2, "  "), (7, "a\nb")] : List Item), Clean it.2) ∧
    (decode (encode [(1, " Hello "), (2, "  "), (7, "a\nb")] ["earlier line"] ["later"])
      [(1, " Hello "), (2, "  "), (7, "a\nb")]).lookup 1 = some "Hello" := by
  have hpos : (([(1, " Hello "), (2, "  "), (7, "a\nb")] : List Item).map (·.1)).Nodup := by decide
  have hword : ∀ it ∈ ([(1, " Hello "), (2, "  "), (7, "a\nb")] : List Item), it.1 ≤ wordMax := by
    decide
  have hpre : ∀ s ∈ ["earlier line"], Clean s := by
    simpa using clean_of_no_angle (by simp)
  have htexts : ∀ it ∈ ([(1, " Hello "), (2, "  "), (7, "a\nb")] : List Item), Clean it.2 := by
    simp only [List.mem_cons, List.not_mem_nil, or_false]
    rintro it (rfl | rfl | rfl) <;> exact clean_of_no_angle (by simp)
  refine ⟨hpos, hword, hpre, htexts, ?_⟩
  rw [(decode_envelope _ _ ["later"] hpos hword hpre htexts).1 1]
  cbv

end SubtitleQueue.Batch
