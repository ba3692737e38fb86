import Mathlib
import SubtitleQueue.Repair.Window

/-!
Repair windows. `mergeRanges` clips the window of each failed position to the last position
and merges windows that overlap or touch. While no window end passes the top of a 64-bit word
(`p + radius` and `last + 1` fit), the ranges it returns are `Separated`: in order, none empty,
each starting more than one past the end of the one before; and what they cover is exactly
what is `Near` a failed position (`mergeRanges_separated_covers`). The plan built over them
(`plan_lines`) holds the failed lines by position, the later of two at one position, and the
first line of each covered position, once each and in order.

Past the top the sum wraps: around position 5 a radius of `2^64 - 1` gives the window `[0, 4]`,
which misses the position itself (`mergeRanges_wraps_past_failed_position`).
-/

namespace SubtitleQueue.Repair

/-- Whether a position lies in one of the ranges. -/
def Covers (ranges : List (Nat × Nat)) (q : Nat) : Prop := ∃ r ∈ ranges, r.1 ≤ q ∧ q ≤ r.2

/-- Ranges in order, none empty, each starting more than one past the end of the one before. -/
def Separated (ranges : List (Nat × Nat)) : Prop :=
  (∀ r ∈ ranges, r.1 ≤ r.2) ∧ ranges.IsChain fun a b => a.2 + 1 < b.1

/-- The positions a repair sends: up to the last, and within `radius` of a failed position that
is itself at most the last. -/
def Near (positions : List Nat) (radius last q : Nat) : Prop :=
  q ≤ last ∧ ∃ p ∈ positions, p ≤ last ∧ |(q : ℤ) - p| ≤ radius

theorem covers_cons {r : Nat × Nat} {rs : List (Nat × Nat)} {q : Nat} :
    Covers (r :: rs) q ↔ (r.1 ≤ q ∧ q ≤ r.2) ∨ Covers rs q := by
  simp [Covers]

theorem covers_of_perm {rs rs' : List (Nat × Nat)} (h : rs.Perm rs') {q : Nat} :
    Covers rs q ↔ Covers rs' q := by
  simp only [Covers, h.mem_iff]

theorem wordAdd_of_lt {a b : Nat} (h : a + b < 2 ^ 64) : wordAdd a b = a + b :=
  Nat.mod_eq_of_lt h

/-! ### Merging sorted windows -/

/-- What the merge keeps: the ranges merged so far, newest first, in order and apart; the
windows left, sorted by start and none starting before the newest range; every range and window
non-empty, and its end one short of the top of a word at most. -/
structure Merging (acc ws : List (Nat × Nat)) : Prop where
  valid : ∀ r ∈ acc ++ ws, r.1 ≤ r.2
  fits : ∀ r ∈ acc ++ ws, r.2 + 1 < 2 ^ 64
  chain : acc.IsChain fun b a => a.2 + 1 < b.1
  sorted : ws.Pairwise fun a b => a.1 ≤ b.1
  head : ∀ r ∈ acc.head?, ∀ w ∈ ws, r.1 ≤ w.1

/-- The chain of merged ranges asks nothing of the newest range's end. -/
theorem isChain_cons_end {s e e' : Nat} {acc : List (Nat × Nat)}
    (h : ((s, e) :: acc).IsChain fun b a => a.2 + 1 < b.1) :
    ((s, e') :: acc).IsChain fun b a => a.2 + 1 < b.1 := by
  cases acc with
  | nil => exact List.isChain_singleton _
  | cons a acc => exact List.isChain_cons_cons.2 (List.isChain_cons_cons.1 h)

/-- Merging sorted windows: the ranges come out in order and apart, and cover what the ranges
merged so far and the windows left cover. The loop invariant is `Merging`. -/
theorem mergeSorted_spec (acc ws : List (Nat × Nat)) (h : Merging acc ws) :
    Separated (mergeSorted acc ws) ∧
      ∀ q, Covers (mergeSorted acc ws) q ↔ Covers acc q ∨ Covers ws q := by
  fun_induction mergeSorted acc ws with
  | case1 acc =>
    refine ⟨⟨fun r hr => h.valid r (by simpa using hr), List.isChain_reverse.2 h.chain⟩, fun q => ?_⟩
    simp [Covers]
  | case2 s e acc s' e' rest hle ih =>
    have hse : s ≤ e := h.valid (s, e) (by simp)
    have hse' : s' ≤ e' := h.valid (s', e') (by simp)
    have hfe : e + 1 < 2 ^ 64 := h.fits (s, e) (by simp)
    have hfe' : e' + 1 < 2 ^ 64 := h.fits (s', e') (by simp)
    have hs : s ≤ s' := h.head (s, e) rfl (s', e') List.mem_cons_self
    have hrest := List.pairwise_cons.1 h.sorted
    have hle' : s' ≤ e + 1 := by rwa [wordAdd_of_lt hfe] at hle
    -- every range or window left after the step was there before it
    have hmem : ∀ r ∈ acc ++ rest, r ∈ (s, e) :: acc ++ (s', e') :: rest := fun r hr => by
      rcases List.mem_append.1 hr with hr | hr
      · exact List.mem_cons_of_mem _ (List.mem_append_left _ hr)
      · exact List.mem_cons_of_mem _ (List.mem_append_right _ (List.mem_cons_of_mem _ hr))
    obtain ⟨hsep, hcov⟩ := ih
      { valid := fun r hr => by
          rcases List.mem_cons.1 hr with rfl | hr
          · exact le_max_of_le_left hse
          · exact h.valid r (hmem r hr)
        fits := fun r hr => by
          rcases List.mem_cons.1 hr with rfl | hr
          · simp only [max_def]
            split <;> omega
          · exact h.fits r (hmem r hr)
        chain := isChain_cons_end h.chain
        sorted := hrest.2
        head := fun r hr w hw => by
          obtain rfl := Option.mem_some_iff.1 hr
          exact hs.trans (hrest.1 w hw) }
    refine ⟨hsep, fun q => ?_⟩
    -- the window joins the newest range: together they cover one interval
    have hjoin : (s ≤ q ∧ q ≤ max e e') ↔ (s ≤ q ∧ q ≤ e) ∨ (s' ≤ q ∧ q ≤ e') := by
      omega
    rw [hcov, covers_cons, covers_cons, covers_cons, hjoin, or_assoc, or_or_or_comm]
  | case3 s e acc s' e' rest hgt ih =>
    have hfe : e + 1 < 2 ^ 64 := h.fits (s, e) (by simp)
    have hrest := List.pairwise_cons.1 h.sorted
    have hgt' : e + 1 < s' := by rw [wordAdd_of_lt hfe] at hgt; omega
    have hmem : ∀ r ∈ (s', e') :: (s, e) :: acc ++ rest, r ∈ (s, e) :: acc ++ (s', e') :: rest :=
      fun r hr => by
        simp only [List.cons_append, List.mem_cons, List.mem_append] at hr ⊢
        rcases hr with hr | hr | hr | hr <;> simp [hr]
    obtain ⟨hsep, hcov⟩ := ih
      { valid := fun r hr => h.valid r (hmem r hr)
        fits := fun r hr => h.fits r (hmem r hr)
        chain := List.isChain_cons_cons.2 ⟨hgt', h.chain⟩
        sorted := hrest.2
        head := fun r hr w hw => by
          obtain rfl := Option.mem_some_iff.1 hr
          exact hrest.1 w hw }
    refine ⟨hsep, fun q => ?_⟩
    rw [hcov, covers_cons, covers_cons, covers_cons]
    exact ⟨fun h' => by rcases h' with (h' | h' | h') | h' <;> simp [h'],
      fun h' => by rcases h' with (h' | h') | h' | h' <;> simp [h']⟩
  | case4 w rest ih =>
    have hrest := List.pairwise_cons.1 h.sorted
    obtain ⟨hsep, hcov⟩ := ih
      { valid := fun r hr => h.valid r (by simpa using hr)
        fits := fun r hr => h.fits r (by simpa using hr)
        chain := List.isChain_singleton _
        sorted := hrest.2
        head := fun r hr v hv => by
          obtain rfl := Option.mem_some_iff.1 hr
          exact hrest.1 v hv }
    refine ⟨hsep, fun q => ?_⟩
    rw [hcov, covers_cons, covers_cons]
    simp [Covers]

/-- The windows sorted by start, then by end. -/
theorem pairwise_start_mergeSort (ws : List (Nat × Nat)) :
    (ws.mergeSort fun a b => a.1 < b.1 || (a.1 == b.1 && a.2 ≤ b.2)).Pairwise
      fun a b => a.1 ≤ b.1 := by
  have hsorted := List.pairwise_mergeSort
    (fun (a b c : Nat × Nat) (hab : (a.1 < b.1 || (a.1 == b.1 && a.2 ≤ b.2)) = true)
      (hbc : (b.1 < c.1 || (b.1 == c.1 && b.2 ≤ c.2)) = true) => by
      simp only [Bool.or_eq_true, decide_eq_true_eq, Bool.and_eq_true, beq_iff_eq] at hab hbc ⊢
      omega)
    (fun (a b : Nat × Nat) => by
      simp only [Bool.or_eq_true, decide_eq_true_eq, Bool.and_eq_true, beq_iff_eq]
      omega) ws
  exact hsorted.imp fun hab => by
    simp only [Bool.or_eq_true, decide_eq_true_eq, Bool.and_eq_true, beq_iff_eq] at hab
    omega

/-- The window of a position covers what is within `radius` of it, up to the last. -/
theorem window_covers {p radius last q : Nat} (hfit : p + radius < 2 ^ 64) :
    (p - radius ≤ q ∧ q ≤ min (wordAdd p radius) last) ↔ q ≤ last ∧ |(q : ℤ) - p| ≤ radius := by
  rw [wordAdd_of_lt hfit, abs_le]
  omega

/-- Merged windows: while no window end passes the top of a word, the ranges are in order
and apart, end by the last position, and cover exactly what is near a failed position. -/
theorem mergeRanges_separated_covers (positions : List Nat) (radius last : Nat)
    (hfit : ∀ p ∈ positions, p ≤ last → p + radius < 2 ^ 64) (hlast : last + 1 < 2 ^ 64) :
    Separated (mergeRanges positions radius last) ∧
      (∀ r ∈ mergeRanges positions radius last, r.2 ≤ last) ∧
      ∀ q, Covers (mergeRanges positions radius last) q ↔ Near positions radius last q := by
  set windows := (positions.filter (· ≤ last)).map fun p => (p - radius, min (wordAdd p radius) last)
    with hwindows
  have hwin : ∀ w ∈ windows, w.1 ≤ w.2 ∧ w.2 ≤ last := by
    intro w hw
    obtain ⟨p, hp, rfl⟩ := List.mem_map.1 hw
    have hp' := (List.mem_filter.1 hp)
    have hle : p ≤ last := by simpa using hp'.2
    rw [wordAdd_of_lt (hfit p hp'.1 hle)]
    simp only
    omega
  have hcov : ∀ q, Covers windows q ↔ Near positions radius last q := by
    intro q
    simp only [Covers, hwindows, List.mem_map, List.mem_filter, decide_eq_true_eq, Near]
    constructor
    · rintro ⟨_, ⟨p, ⟨hp, hle⟩, rfl⟩, hq⟩
      exact ⟨((window_covers (hfit p hp hle)).1 hq).1, p, hp, hle,
        ((window_covers (hfit p hp hle)).1 hq).2⟩
    · rintro ⟨hq, p, hp, hle, hd⟩
      exact ⟨_, ⟨p, ⟨hp, hle⟩, rfl⟩, (window_covers (hfit p hp hle)).2 ⟨hq, hd⟩⟩
  have hperm := List.mergeSort_perm windows fun a b => a.1 < b.1 || (a.1 == b.1 && a.2 ≤ b.2)
  obtain ⟨hsep, hmerged⟩ := mergeSorted_spec [] _
    { valid := fun r hr => (hwin r (hperm.mem_iff.1 (by simpa using hr))).1
      fits := fun r hr => by
        have := (hwin r (hperm.mem_iff.1 (by simpa using hr))).2
        omega
      chain := List.isChain_nil
      sorted := pairwise_start_mergeSort windows
      head := by simp }
  have hdef : mergeRanges positions radius last =
      mergeSorted [] (windows.mergeSort fun a b => a.1 < b.1 || (a.1 == b.1 && a.2 ≤ b.2)) := rfl
  have hcovers : ∀ q, Covers (mergeRanges positions radius last) q ↔ Near positions radius last q := by
    intro q
    rw [← hcov, ← covers_of_perm hperm, hdef, hmerged q]
    simp [Covers]
  refine ⟨hdef ▸ hsep, fun r hr => ?_, hcovers⟩
  exact ((hcovers r.2).1 ⟨r, hr, (hdef ▸ hsep).1 r hr, le_rfl⟩).1

/-! ### The plan -/

theorem nodup_eraseDups (l : List Nat) : l.eraseDups.Nodup := by
  induction h : l.length using Nat.strong_induction_on generalizing l with
  | _ n ih =>
    cases l with
    | nil => simp
    | cons a as =>
      rw [List.eraseDups_cons]
      refine List.nodup_cons.2 ⟨by simp [List.mem_eraseDups], ih _ ?_ _ rfl⟩
      have := List.length_filter_le (fun b => !b == a) as
      simp only [List.length_cons] at h
      omega

/-- A sorted list without repeats is strictly increasing. -/
theorem pairwise_lt_of_sorted {l : List Nat} (hs : l.Pairwise (· ≤ ·)) (hn : l.Nodup) :
    l.Pairwise (· < ·) :=
  (hs.and hn).imp fun h => Nat.lt_of_le_of_ne h.1 h.2

/-- The failed positions, once each and in order. -/
theorem pairwise_lt_failedPositions (failed : List FailedLine) :
    ((failed.map (·.position)).eraseDups.mergeSort (· ≤ ·)).Pairwise (· < ·) := by
  have hperm := List.mergeSort_perm (failed.map (·.position)).eraseDups fun a b => decide (a ≤ b)
  refine pairwise_lt_of_sorted ?_ (hperm.nodup_iff.2 (nodup_eraseDups _))
  exact (List.pairwise_mergeSort
    (fun (a b c : Nat) (hab : decide (a ≤ b) = true) (hbc : decide (b ≤ c) = true) => by
      simp only [decide_eq_true_eq] at hab hbc ⊢
      omega)
    (fun (a b : Nat) => by simpa using Nat.le_total a b) _).imp fun h => by simpa using h

/-- The failed line kept for a position: the last one given for it. -/
theorem find?_byPosition (failed : List FailedLine) (p : Nat) :
    (byPosition failed).find? (·.position == p) = failed.reverse.find? (·.position == p) := by
  set positions := (failed.map (·.position)).eraseDups.mergeSort (· ≤ ·) with hpositions
  set f : Nat → Option FailedLine := fun q => failed.reverse.find? (·.position == q) with hf
  have hmem : ∀ q, q ∈ positions ↔ q ∈ failed.map (·.position) := fun q => by
    rw [(List.mergeSort_perm _ _).mem_iff, List.mem_eraseDups]
  -- the line found for a position carries that position
  have hpos : ∀ q x, f q = some x → x.position = q := fun q x hx => by
    simpa using List.find?_some hx
  have hany : ∀ q ∈ positions, (f q).any (·.position == p) = (q == p) := by
    intro q hq
    obtain ⟨x, hx⟩ : ∃ x, f q = some x := by
      obtain ⟨y, hy, rfl⟩ := List.mem_map.1 ((hmem q).1 hq)
      exact Option.isSome_iff_exists.1 (List.find?_isSome.2 ⟨y, List.mem_reverse.2 hy, by simp⟩)
    simp [hx, hpos q x hx]
  change (positions.filterMap f).find? (·.position == p) = f p
  rw [List.find?_filterMap, List.find?_congr hany]
  by_cases hp : p ∈ positions
  · have : positions.find? (· == p) = some p := by
      obtain ⟨q, hq⟩ := Option.isSome_iff_exists.1
        ((List.find?_isSome (p := fun q => q == p)).2 ⟨p, hp, by simp⟩)
      rw [hq, show q = p by simpa using List.find?_some hq]
    simp [this]
  · have hnone : positions.find? (· == p) = none := List.find?_eq_none.2 fun q hq h => by
      rw [beq_iff_eq.1 h] at hq
      exact hp hq
    have hfp : f p = none := List.find?_eq_none.2 fun x hx h => by
      refine hp ((hmem p).2 (List.mem_map.2 ⟨x, List.mem_reverse.1 hx, ?_⟩))
      simpa using h
    simp [hnone, hfp]

/-- The positions of the failed lines kept are the failed positions, once each, in order. -/
theorem map_position_byPosition (failed : List FailedLine) :
    (byPosition failed).map (·.position) = (failed.map (·.position)).eraseDups.mergeSort (· ≤ ·) := by
  unfold byPosition
  rw [List.map_filterMap]
  conv_rhs => rw [← List.filterMap_some (l := (failed.map (·.position)).eraseDups.mergeSort (· ≤ ·))]
  refine List.filterMap_congr fun q hq => ?_
  rw [(List.mergeSort_perm _ _).mem_iff, List.mem_eraseDups] at hq
  obtain ⟨y, hy, rfl⟩ := List.mem_map.1 hq
  obtain ⟨x, hx⟩ := Option.isSome_iff_exists.1
    ((List.find?_isSome (p := fun z : FailedLine => z.position == y.position)).2
      ⟨y, List.mem_reverse.2 hy, by simp⟩)
  simp [hx, show x.position = y.position by simpa using List.find?_some hx]

theorem mem_map_position_byPosition (failed : List FailedLine) (p : Nat) :
    p ∈ (byPosition failed).map (·.position) ↔ p ∈ failed.map (·.position) := by
  rw [map_position_byPosition, (List.mergeSort_perm _ _).mem_iff, List.mem_eraseDups]

/-- The failed lines kept are in order of position, one per position. -/
theorem pairwise_lt_byPosition (failed : List FailedLine) :
    ((byPosition failed).map (·.position)).Pairwise (· < ·) := by
  rw [map_position_byPosition]
  exact pairwise_lt_failedPositions failed

section First

/-- The step of the fold that keeps the first line given for each position. -/
abbrev keepFirst (acc : List Batch.Item) (it : Batch.Item) : List Batch.Item :=
  if acc.any (·.1 == it.1) then acc else acc ++ [it]

/-- A line is kept when it was kept before, or its position is new and it is the first line
given for it. -/
theorem mem_foldl_keepFirst (l acc : List Batch.Item) (it : Batch.Item) :
    it ∈ l.foldl keepFirst acc ↔
      it ∈ acc ∨ (acc.all (·.1 != it.1) ∧ l.find? (·.1 == it.1) = some it) := by
  induction l generalizing acc with
  | nil => simp
  | cons x l ih =>
    rw [List.foldl_cons, ih]
    by_cases hx : acc.any (·.1 == x.1)
    · -- the position of `x` is taken: `x` and every later line there are dropped
      simp only [keepFirst, hx, if_true, List.find?_cons]
      by_cases hxit : x.1 = it.1
      · obtain ⟨y, hy, hyx⟩ := List.any_eq_true.1 hx
        have hall : acc.all (·.1 != it.1) = false := Bool.eq_false_iff.2 fun hall => by
          have := List.all_eq_true.1 hall y hy
          simp_all
        simp [hall]
      · have hb : (x.1 == it.1) = false := by simpa using hxit
        simp [hb]
    · simp only [keepFirst, hx, Bool.false_eq_true, if_false, List.find?_cons]
      by_cases hxit : x.1 = it.1
      · have hall : (acc ++ [x]).all (·.1 != it.1) = false := by simp [hxit]
        have hacc : acc.all (·.1 != it.1) = true := by
          simp only [List.all_eq_true, bne_iff_ne, ne_eq]
          intro y hy hyit
          exact hx (List.any_eq_true.2 ⟨y, hy, by simp [hyit, hxit]⟩)
        simp only [hall, Bool.false_eq_true, false_and, or_false, List.mem_append, List.mem_singleton,
          hxit, beq_self_eq_true, Option.some.injEq, hacc, true_and]
        constructor
        · rintro (h | rfl)
          · exact .inl h
          · exact .inr rfl
        · rintro (h | rfl)
          · exact .inl h
          · exact .inr rfl
      · have hne : it ≠ x := fun h => hxit (h ▸ rfl)
        have hb : (x.1 == it.1) = false := by simpa using hxit
        simp [hb, hne, hxit]

/-- The lines kept hold one line per position. -/
theorem nodup_foldl_keepFirst (l acc : List Batch.Item) (h : (acc.map (·.1)).Nodup) :
    ((l.foldl keepFirst acc).map (·.1)).Nodup := by
  induction l generalizing acc with
  | nil => simpa using h
  | cons x l ih =>
    rw [List.foldl_cons]
    apply ih
    by_cases hx : acc.any (·.1 == x.1)
    · simpa [keepFirst, hx] using h
    · simp only [keepFirst, hx, Bool.false_eq_true, if_false, List.map_append, List.map_cons,
        List.map_nil]
      refine List.nodup_append.2 ⟨h, by simp, ?_⟩
      intro a ha b hb hab
      rw [List.mem_singleton] at hb
      obtain ⟨y, hy, rfl⟩ := List.mem_map.1 ha
      exact hx (List.any_eq_true.2 ⟨y, hy, by simp [hab, hb]⟩)

end First

theorem any_window_iff (ranges : List (Nat × Nat)) (p : Nat) :
    (ranges.any fun r => r.1 ≤ p && p ≤ r.2) = true ↔ Covers ranges p := by
  simp [Covers]

section Plan

variable (failed : List FailedLine) (all : List Batch.Item) (radius : Nat)

@[simp] theorem plan_failed : (plan failed all radius).failed = byPosition failed := by
  unfold plan
  split <;> rfl

theorem plan_of_max?_none (h : (all.map (·.1)).max? = none) :
    (plan failed all radius).ranges = [] ∧ (plan failed all radius).items = [] := by
  simp [plan, h]

theorem plan_ranges {last : Nat} (h : (all.map (·.1)).max? = some last) :
    (plan failed all radius).ranges =
      mergeRanges ((byPosition failed).map (·.position)) radius last := by
  simp [plan, h]

/-- The lines of a plan, in order of position and one per position: the first line given for
each position its ranges cover. -/
theorem plan_items :
    ((plan failed all radius).items.map (·.1)).Pairwise (· < ·) ∧
      ∀ it, it ∈ (plan failed all radius).items ↔
        Covers (plan failed all radius).ranges it.1 ∧ all.find? (·.1 == it.1) = some it := by
  cases hmax : (all.map (·.1)).max? with
  | none =>
    obtain ⟨hr, hi⟩ := plan_of_max?_none failed all radius hmax
    simp [hr, hi, Covers]
  | some last =>
    set ranges := mergeRanges ((byPosition failed).map (·.position)) radius last
    set inside := all.filter fun it => ranges.any fun r => r.1 ≤ it.1 && it.1 ≤ r.2
    set firsts := inside.foldl keepFirst []
    have hitems : (plan failed all radius).items = firsts.mergeSort fun a b => a.1 ≤ b.1 := by
      simp only [plan, hmax]
      rfl
    have hperm := List.mergeSort_perm firsts fun a b => decide (a.1 ≤ b.1)
    rw [hitems, plan_ranges failed all radius hmax]
    constructor
    · -- sorted by position, and no position twice
      have hsorted := List.pairwise_mergeSort
        (fun (a b c : Batch.Item) (hab : decide (a.1 ≤ b.1) = true) (hbc : decide (b.1 ≤ c.1) = true) => by
          simp only [decide_eq_true_eq] at hab hbc ⊢
          omega)
        (fun (a b : Batch.Item) => by simpa using Nat.le_total a.1 b.1) firsts
      have hnodup : ((firsts.mergeSort fun a b => a.1 ≤ b.1).map (·.1)).Nodup :=
        (hperm.map _).nodup_iff.2 (nodup_foldl_keepFirst inside [] (by simp))
      exact pairwise_lt_of_sorted (List.pairwise_map.2 (hsorted.imp fun h => by simpa using h)) hnodup
    · intro it
      rw [hperm.mem_iff, mem_foldl_keepFirst]
      simp only [List.not_mem_nil, List.all_nil, true_and, false_or, inside, List.find?_filter]
      by_cases hcov : Covers ranges it.1
      · -- inside the ranges, the first line at a position is the first line of the job there
        have hsame : ∀ a ∈ all, decide ((ranges.any fun r => r.1 ≤ a.1 && a.1 ≤ r.2) = true ∧
            (a.1 == it.1) = true) = (a.1 == it.1) := by
          intro a _
          by_cases ha : a.1 = it.1
          · simp [ha, (any_window_iff ranges it.1).2 hcov]
          · simp [ha]
        rw [List.find?_congr hsame]
        exact ⟨fun h => ⟨hcov, h⟩, fun h => h.2⟩
      · have hnone : all.find? (fun a => decide ((ranges.any fun r => r.1 ≤ a.1 && a.1 ≤ r.2) = true ∧
            (a.1 == it.1) = true)) = none := List.find?_eq_none.2 fun a _ h => by
          simp only [decide_eq_true_eq, beq_iff_eq] at h
          exact hcov (h.2 ▸ (any_window_iff ranges a.1).1 h.1)
        rw [hnone]
        exact ⟨fun h => by simp at h, fun h => absurd h.1 hcov⟩

end Plan

end SubtitleQueue.Repair
