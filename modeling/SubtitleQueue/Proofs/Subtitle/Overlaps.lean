import Mathlib
import SubtitleQueue.Subtitle.Srt

/-!
Removing overlaps between cues. The cues are sorted by start, cues that start together keeping
their order, and a cue that runs into the next one has its end pulled back to just before the
next start, or to its own start when both start together. Only ends move, and only down; each
cue then ends by the time the next one starts, a cue that did not end before it started still
does not, the count is the number of ends that moved, and a second pass finds nothing to do
(`fixOverlaps_sorts_and_trims`).
-/

namespace SubtitleQueue.Subtitle

/-- Cue `b` is cue `a` with its end pulled back: the same number, start and text, an end no
later, and no earlier than the start where `a`'s was not. -/
structure Trimmed (a b : Cue) : Prop where
  seq : b.seq = a.seq
  start : b.start = a.start
  text : b.text = a.text
  stop_le : b.stop ≤ a.stop
  ordered : a.start ≤ a.stop → b.start ≤ b.stop

theorem Trimmed.refl (a : Cue) : Trimmed a a := ⟨rfl, rfl, rfl, le_rfl, id⟩

/-- Cues in order of start. -/
def StartOrdered (cs : List Cue) : Prop := cs.Pairwise fun a b => a.start ≤ b.start

instance : DecidablePred StartOrdered := fun cs => inferInstanceAs (Decidable (cs.Pairwise _))

/-- Each cue ends by the time the next one starts. -/
def Spaced (cs : List Cue) : Prop := cs.IsChain fun a b => a.stop ≤ b.start

instance : DecidablePred Spaced := fun cs => inferInstanceAs (Decidable (cs.IsChain _))

/-- How many cues of the second list end elsewhere than their partners in the first. -/
def movedEnds (xs ys : List Cue) : Nat := (xs.zip ys).countP fun p => p.1.stop != p.2.stop

/-! ### Sorting by start -/

theorem sortByStart_perm (cs : List Cue) : (sortByStart cs).Perm cs := List.mergeSort_perm _ _

theorem startOrdered_sortByStart (cs : List Cue) : StartOrdered (sortByStart cs) := by
  have hsorted : (sortByStart cs).Pairwise fun a b => decide (a.start ≤ b.start) = true :=
    List.pairwise_mergeSort (fun a b c hab hbc => by simp only [decide_eq_true_eq] at hab hbc ⊢; omega)
      (fun a b => by simpa using Nat.le_total a.start b.start) cs
  exact hsorted.imp fun h => by simpa using h

/-- Sorting keeps the order of the cues that start at the same time. -/
theorem filter_sortByStart (cs : List Cue) (k : Nat) :
    (sortByStart cs).filter (·.start == k) = cs.filter (·.start == k) := by
  -- the cues starting at `k` are sorted among themselves, so merge sort keeps them in order
  have hsame : (cs.filter (·.start == k)).Pairwise fun a b => decide (a.start ≤ b.start) = true := by
    refine List.Pairwise.imp_of_mem (R := fun _ _ => True) (fun ha hb _ => ?_)
      (List.pairwise_of_forall fun _ _ => trivial)
    simp only [List.mem_filter, beq_iff_eq] at ha hb
    simp [ha.2, hb.2]
  have hsub : (cs.filter (·.start == k)).Sublist (sortByStart cs) :=
    List.sublist_mergeSort (fun a b c hab hbc => by simp only [decide_eq_true_eq] at hab hbc ⊢; omega)
      (fun a b => by simpa using Nat.le_total a.start b.start) hsame (List.filter_sublist)
  have hsub' : (cs.filter (·.start == k)).Sublist ((sortByStart cs).filter (·.start == k)) := by
    simpa [List.filter_filter] using hsub.filter (·.start == k)
  have hlen : ((sortByStart cs).filter (·.start == k)).length = (cs.filter (·.start == k)).length :=
    ((sortByStart_perm cs).filter _).length_eq
  exact (hsub'.eq_of_length hlen.symm).symm

theorem sortByStart_of_startOrdered {cs : List Cue} (h : StartOrdered cs) : sortByStart cs = cs :=
  List.mergeSort_of_pairwise (h.imp fun hab => by simpa using hab)

/-! ### Pulling ends back -/

section Trim

variable {a b : Cue} {rest xs ys : List Cue}

/-- A cue that runs into a later-starting one, pulled back. -/
theorem trimmed_pull (hab : a.start ≤ b.start) (hover : a.stop > b.start) :
    Trimmed a { a with stop := max (b.start - 1) a.start } where
  seq := rfl
  start := rfl
  text := rfl
  stop_le := by simp only; omega
  ordered := fun _ => le_max_right _ _

theorem forall₂_go (h : xs.IsChain fun a b => a.start ≤ b.start) :
    List.Forall₂ Trimmed xs (fixOverlaps.go xs).2 := by
  fun_induction fixOverlaps.go xs with
  | case1 a b rest n tail hgo hover ih =>
    obtain ⟨hab, hrest⟩ := List.isChain_cons_cons.1 h
    rw [hgo] at ih
    exact .cons (trimmed_pull hab hover) (ih hrest)
  | case2 a b rest n tail hgo _ ih =>
    rw [hgo] at ih
    exact .cons (Trimmed.refl a) (ih (List.isChain_cons_cons.1 h).2)
  | case3 xs _ => exact List.forall₂_same.2 fun a _ => Trimmed.refl a

theorem movedEnds_cons (a a' : Cue) (xs ys : List Cue) :
    movedEnds (a :: xs) (a' :: ys) = movedEnds xs ys + if a.stop = a'.stop then 0 else 1 := by
  by_cases h : a.stop = a'.stop <;> simp [movedEnds, h]

theorem movedEnds_self (xs : List Cue) : movedEnds xs xs = 0 := by
  induction xs with
  | nil => rfl
  | cons x xs ih => simp [movedEnds_cons, ih]

theorem spaced_go (h : xs.IsChain fun a b => a.start ≤ b.start) : Spaced (fixOverlaps.go xs).2 := by
  fun_induction fixOverlaps.go xs with
  | case1 a b rest n tail hgo hover ih =>
    obtain ⟨hab, hrest⟩ := List.isChain_cons_cons.1 h
    have htrim := forall₂_go hrest
    rw [hgo] at ih htrim
    obtain ⟨b', t', hb', -, rfl⟩ := List.forall₂_cons_left_iff.1 htrim
    exact List.isChain_cons_cons.2 ⟨by simp only [hb'.start]; omega, ih hrest⟩
  | case2 a b rest n tail hgo hover ih =>
    have hrest := (List.isChain_cons_cons.1 h).2
    have htrim := forall₂_go hrest
    rw [hgo] at ih htrim
    obtain ⟨b', t', hb', -, rfl⟩ := List.forall₂_cons_left_iff.1 htrim
    exact List.isChain_cons_cons.2 ⟨by rw [hb'.start]; omega, ih hrest⟩
  | case3 xs hxs =>
    -- what is left is a list too short to hold a pair
    rcases xs with _ | ⟨x, _ | ⟨y, r⟩⟩
    · exact List.IsChain.nil
    · exact List.IsChain.singleton x
    · exact (hxs x y r rfl).elim

/-- The count is of the ends that moved: a cue that runs into the next one, which starts no
earlier, ends before it did. -/
theorem movedEnds_go (h : xs.IsChain fun a b => a.start ≤ b.start) :
    (fixOverlaps.go xs).1 = movedEnds xs (fixOverlaps.go xs).2 := by
  fun_induction fixOverlaps.go xs with
  | case1 a b rest n tail hgo hover ih =>
    obtain ⟨hab, hrest⟩ := List.isChain_cons_cons.1 h
    rw [hgo] at ih
    have hn : n = movedEnds (b :: rest) tail := ih hrest
    have hmoved : a.stop ≠ max (b.start - 1) a.start := by omega
    rw [movedEnds_cons, if_neg hmoved, hn]
  | case2 a b rest n tail hgo _ ih =>
    rw [hgo] at ih
    have hn : n = movedEnds (b :: rest) tail := ih (List.isChain_cons_cons.1 h).2
    rw [movedEnds_cons, if_pos rfl, hn, Nat.add_zero]
  | case3 xs _ => exact (movedEnds_self xs).symm

/-- Cues already spaced are left as they are. -/
theorem go_of_spaced (h : Spaced xs) : fixOverlaps.go xs = (0, xs) := by
  fun_induction fixOverlaps.go xs with
  | case1 a b rest n tail hgo hover ih =>
    exact absurd (List.isChain_cons_cons.1 h).1 (by omega)
  | case2 a b rest n tail hgo _ ih =>
    rw [ih (List.isChain_cons_cons.1 h).2] at hgo
    obtain ⟨rfl, rfl⟩ := Prod.mk.inj hgo
    rfl
  | case3 xs _ => rfl

theorem map_start_of_forall₂ (h : List.Forall₂ Trimmed xs ys) : ys.map (·.start) = xs.map (·.start) := by
  induction h with
  | nil => rfl
  | cons hab _ ih => simp [hab.start, ih]

theorem startOrdered_of_forall₂ (h : List.Forall₂ Trimmed xs ys) (hs : StartOrdered xs) :
    StartOrdered ys := by
  unfold StartOrdered at hs ⊢
  rw [← List.pairwise_map (R := (· ≤ ·))] at hs ⊢
  rwa [map_start_of_forall₂ h]

end Trim

theorem fixOverlaps_eq (cs : List Cue) : fixOverlaps cs = fixOverlaps.go (sortByStart cs) := rfl

/-- Fixing overlaps sorts the cues by start, cues that start together keeping their order, and
pulls ends back: only ends change, and only down; every cue ends by the time the next starts,
and does not end before it starts unless it did so already; the count is the number of ends
that moved; and a second pass changes nothing and counts nothing. -/
theorem fixOverlaps_sorts_and_trims (cs : List Cue) :
    (sortByStart cs).Perm cs ∧ StartOrdered (sortByStart cs) ∧
      (∀ k, (sortByStart cs).filter (·.start == k) = cs.filter (·.start == k)) ∧
    List.Forall₂ Trimmed (sortByStart cs) (fixOverlaps cs).2 ∧
    Spaced (fixOverlaps cs).2 ∧
    (fixOverlaps cs).1 = movedEnds (sortByStart cs) (fixOverlaps cs).2 ∧
    fixOverlaps (fixOverlaps cs).2 = (0, (fixOverlaps cs).2) := by
  have hsorted := startOrdered_sortByStart cs
  have hchain : (sortByStart cs).IsChain fun a b => a.start ≤ b.start := hsorted.isChain
  have htrim := forall₂_go hchain
  have hspaced := spaced_go hchain
  refine ⟨sortByStart_perm cs, hsorted, filter_sortByStart cs, htrim, hspaced, movedEnds_go hchain, ?_⟩
  rw [fixOverlaps_eq (fixOverlaps cs).2, fixOverlaps_eq cs,
    sortByStart_of_startOrdered (startOrdered_of_forall₂ htrim hsorted)]
  exact go_of_spaced hspaced

example : fixOverlaps [⟨1, 0, 2000, "a"⟩, ⟨2, 1500, 3000, "b"⟩, ⟨3, 4000, 5000, "c"⟩] =
    (1, [⟨1, 0, 1499, "a"⟩, ⟨2, 1500, 3000, "b"⟩, ⟨3, 4000, 5000, "c"⟩]) := by
  rw [fixOverlaps_eq, sortByStart_of_startOrdered (by decide)]
  rfl

end SubtitleQueue.Subtitle
