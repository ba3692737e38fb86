import Mathlib
import SubtitleQueue.Batch.Fallback

/-!
Graduated splitting against a backend that always answers. The backend is an `Oracle`: it
answers each chunk from the calls made before, with translations or with a failure that a
smaller chunk may mend (`Settles`); `recorded` runs the splitting with it and keeps the calls in
order. A run is a sequence of levels (`Levels`): level `k` sends the lines still pending split
into `k` chunks, each line in exactly one chunk (`flatten_split`), and the lines none of its
calls translates are pending at the next level, until none are or the levels are spent. The
translations returned are exactly those the calls made, one per position (`Collected`).
-/

namespace SubtitleQueue.Batch

/-! ### Translations by position -/

namespace Translations

@[simp] theorem get?_nil (p : Nat) : get? [] p = none := rfl

/-- Setting a position's translation changes only what that position reads. -/
theorem get?_put (m : Translations) (p q : Nat) (t : String) :
    (m.put p t).get? q = if q = p then some t else m.get? q := by
  unfold put get?
  simp only [List.find?_append, List.find?_cons, List.find?_filter]
  by_cases hqp : q = p
  · subst hqp
    rw [List.find?_eq_none.2 fun a _ => by simp only [decide_eq_true_eq, bne_iff_ne, beq_iff_eq]; omega]
    simp
  · have hpq : (p == q) = false := beq_eq_false_iff_ne.2 (Ne.symm hqp)
    simp only [hpq, hqp, if_false]
    rcases Nat.lt_or_gt_of_ne hqp with hlt | hgt
    · have hfirst : List.find? (fun a : Nat × String => decide ((a.1 != p) = true ∧
          decide (decide (a.1 < p) = true ∧ (a.1 == q) = true) = true)) m =
          List.find? (fun x => x.1 == q) m :=
        List.find?_congr fun a _ => by rw [Bool.eq_iff_iff]; simp only [decide_eq_true_eq, bne_iff_ne, beq_iff_eq]; omega
      have hthird : List.find? (fun a : Nat × String => decide ((a.1 != p) = true ∧
          decide (decide (a.1 > p) = true ∧ (a.1 == q) = true) = true)) m = none :=
        List.find?_eq_none.2 fun a _ => by simp only [decide_eq_true_eq, bne_iff_ne, beq_iff_eq]; omega
      rw [hfirst, hthird, Option.or_none]
    · have hfirst : List.find? (fun a : Nat × String => decide ((a.1 != p) = true ∧
          decide (decide (a.1 < p) = true ∧ (a.1 == q) = true) = true)) m = none :=
        List.find?_eq_none.2 fun a _ => by simp only [decide_eq_true_eq, bne_iff_ne, beq_iff_eq]; omega
      have hthird : List.find? (fun a : Nat × String => decide ((a.1 != p) = true ∧
          decide (decide (a.1 > p) = true ∧ (a.1 == q) = true) = true)) m =
          List.find? (fun x => x.1 == q) m :=
        List.find?_congr fun a _ => by rw [Bool.eq_iff_iff]; simp only [decide_eq_true_eq, bne_iff_ne, beq_iff_eq]; omega
      rw [hfirst, hthird, Option.none_or]

end Translations

/-! ### A backend that answers from the calls before -/

/-- A call to the backend: the chunk sent and the answer it gave. -/
abbrev Call := List Item × Except JobError Translations

/-- A backend that answers each chunk, given the calls made before it. -/
abbrev Oracle := List Call → List Item → Except JobError Translations

/-- A backend that always answers: with translations, or with a failure that a smaller chunk
may mend. -/
def Settles (o : Oracle) : Prop :=
  ∀ log chunk, (∃ answer, o log chunk = .ok answer) ∨
    ∃ err, o log chunk = .error (.backend err) ∧ err.abortsBatch = false

/-- Effects that are never stopped, send each chunk to `o` and record the call, and drop
warnings. -/
def recorded (o : Oracle) : Effects (StateM (List Call)) where
  cancelled := pure false
  send chunk := modifyGet fun log => (o log chunk, log ++ [(chunk, o log chunk)])
  warn _ := pure ()

@[simp] theorem recorded_cancelled (o : Oracle) : (recorded o).cancelled = pure false := rfl
@[simp] theorem recorded_send (o : Oracle) (chunk : List Item) :
    (recorded o).send chunk = modifyGet fun log => (o log chunk, log ++ [(chunk, o log chunk)]) := rfl
@[simp] theorem recorded_warn (o : Oracle) (s : String) : (recorded o).warn s = pure () := rfl

/-- The calls made for a list of chunks, one after another. -/
def answers (o : Oracle) (log : List Call) : List (List Item) → List Call
  | [] => []
  | chunk :: rest => (chunk, o log chunk) :: answers o (log ++ [(chunk, o log chunk)]) rest

/-- The text an answer gives a position, when it is there and not blank. -/
def textIn (r : Except JobError Translations) (p : Nat) : Option String :=
  match r with
  | .ok answer => (answer.get? p).filter fun t => !Text.isBlankText t
  | .error _ => none

/-- The text a call's answer gives a position, when it is there and not blank. -/
def Call.answer (c : Call) (p : Nat) : Option String := textIn c.2 p

/-- The translation a call gives a position of its chunk. -/
def Call.translates (c : Call) (p : Nat) : Option String :=
  if p ∈ c.1.map (·.1) then c.answer p else none

/-- The lines of a call's chunk that it does not translate. -/
def Call.missed (c : Call) : List Item := c.1.filter fun it => (c.answer it.1).isNone

/-- Keeps a line's translation, when the answer has one. -/
def keep (ans : Nat → Option String) (done : Translations) (it : Item) : Translations :=
  match ans it.1 with
  | some t => done.put it.1 t
  | none => done

/-- The translations after a call: every line of its chunk it translates. -/
def record (done : Translations) (c : Call) : Translations := c.1.foldl (keep c.answer) done

/-- The chunk's lines after a call: translations kept, lines failed. -/
def settle (acc : Translations × List Item) (c : Call) : Translations × List Item :=
  match c.2 with
  | .ok answer => c.1.foldl (absorb answer) acc
  | .error _ => (acc.1, acc.2 ++ c.1)

theorem run_level {o : Oracle} (ho : Settles o) (chunks : List (List Item)) (done : Translations)
    (failed : List Item) (log : List Call) :
    (level (recorded o) chunks done failed).run log =
      (.ok ((answers o log chunks).foldl settle (done, failed)), log ++ answers o log chunks) := by
  induction chunks generalizing done failed log with
  | nil =>
    simp only [level, answers, List.foldl_nil, List.append_nil]
    rfl
  | cons chunk rest ih =>
    rcases ho log chunk with ⟨answer, h⟩ | ⟨err, h, hab⟩
    · simp [level, answers, h, ih, settle]
    · simp [level, answers, h, hab, ih, settle]

theorem foldl_absorb (answer : Translations) (xs : List Item) (done : Translations)
    (failed : List Item) :
    xs.foldl (absorb answer) (done, failed) =
      (xs.foldl (keep (textIn (.ok answer))) done,
        failed ++ xs.filter fun it => (textIn (.ok answer) it.1).isNone) := by
  induction xs generalizing done failed with
  | nil => simp
  | cons x xs ih =>
    have hstep : absorb answer (done, failed) x =
        (keep (textIn (.ok answer)) done x,
          failed ++ if (textIn (.ok answer) x.1).isNone then [x] else []) := by
      unfold absorb keep textIn
      cases hx : answer.get? x.1 with
      | none => simp [hx]
      | some t => by_cases hb : Text.isBlankText t <;> simp [hx, hb, Option.filter_some]
    rw [List.foldl_cons, List.foldl_cons, List.filter_cons, hstep, ih]
    split_ifs <;> simp

theorem settle_eq (done : Translations) (failed : List Item) (c : Call) :
    settle (done, failed) c = (record done c, failed ++ c.missed) := by
  obtain ⟨chunk, r⟩ := c
  cases r with
  | ok answer => exact foldl_absorb answer chunk done failed
  | error err =>
    have hans : Call.answer (chunk, .error err) = fun _ => none := rfl
    have hkeep : ∀ xs : List Item, ∀ d, xs.foldl (keep fun _ => none) d = d := by
      intro xs
      induction xs with
      | nil => intro d; rfl
      | cons x xs ih => intro d; exact ih d
    simp [settle, record, Call.missed, hans, hkeep]

theorem foldl_settle (cs : List Call) (done : Translations) (failed : List Item) :
    cs.foldl settle (done, failed) = (cs.foldl record done, failed ++ cs.flatMap Call.missed) := by
  induction cs generalizing done failed with
  | nil => simp
  | cons c cs ih => rw [List.foldl_cons, settle_eq, ih, List.foldl_cons]; simp

/-- After a call, a position reads the call's translation, or what it read before. -/
theorem get?_foldl_keep (ans : Nat → Option String) (xs : List Item) (done : Translations)
    (p : Nat) :
    (xs.foldl (keep ans) done).get? p = ((if p ∈ xs.map (·.1) then ans p else none).or (done.get? p)) := by
  induction xs generalizing done with
  | nil => simp
  | cons x xs ih =>
    rw [List.foldl_cons, ih, List.map_cons]
    -- the item's own position reads its answer; every other position, what it read before
    have hother : ∀ q, q ≠ x.1 → ∀ o : Option String,
        (if q ∈ xs.map (·.1) then ans q else none).or o =
          (if q ∈ x.1 :: xs.map (·.1) then ans q else none).or o := by
      intro q hq o
      by_cases hm : q ∈ xs.map (·.1)
      · rw [if_pos hm, if_pos (List.mem_cons_of_mem _ hm)]
      · rw [if_neg hm, if_neg (by simp [hq, hm])]
    unfold keep
    cases hx : ans x.1 with
    | none =>
      by_cases hp : p = x.1
      · subst hp; simp only [hx, ite_self]
      · exact hother p hp _
    | some t =>
      rw [Translations.get?_put]
      by_cases hp : p = x.1
      · subst hp
        rw [if_pos rfl, if_pos List.mem_cons_self, hx]
        split_ifs <;> rfl
      · rw [if_neg hp]
        exact hother p hp _

theorem get?_record (done : Translations) (c : Call) (p : Nat) :
    (record done c).get? p = (c.translates p).or (done.get? p) :=
  get?_foldl_keep c.answer c.1 done p

/-- After a run of calls, a position reads the last translation a call gave it, or what it
read before. -/
theorem get?_foldl_record (cs : List Call) (done : Translations) (p : Nat) :
    (cs.foldl record done).get? p = (cs.filterMap (·.translates p)).getLast?.or (done.get? p) := by
  induction cs generalizing done with
  | nil => simp
  | cons c cs ih =>
    rw [List.foldl_cons, ih, get?_record]
    cases hc : c.translates p with
    | none => simp [hc]
    | some v =>
      rw [List.filterMap_cons, hc]
      cases hl : (cs.filterMap (·.translates p)).getLast? <;> simp [List.getLast?_cons, hl]

/-! ### Chunks -/

theorem flatten_chunksOf {α : Type} (size : Nat) (xs : List α) : (chunksOf size xs).flatten = xs := by
  fun_induction chunksOf size xs with
  | case1 xs _ => simp
  | case2 => rfl
  | case3 x rest _ ih => rw [List.flatten_cons, ih, List.take_append_drop]

/-- Splitting loses and repeats no line: the chunks, one after another, are the lines. -/
theorem flatten_split {α : Type} (xs : List α) (parts : Nat) : (split xs parts).flatten = xs := by
  unfold split
  split_ifs with h
  · simp [List.isEmpty_iff.1 h]
  · exact flatten_chunksOf _ _

@[simp] theorem map_fst_answers (o : Oracle) (log : List Call) (chunks : List (List Item)) :
    (answers o log chunks).map (·.1) = chunks := by
  induction chunks generalizing log with
  | nil => rfl
  | cons chunk rest ih => simp [answers, ih]

/-! ### Levels -/

/-- The calls of graduated splitting, level by level, from split level `lvl` with the lines
`pending`, leaving the lines `left`: a level sends the pending lines split into `lvl` chunks,
one call per chunk, and the lines its calls do not translate are pending for the next level.
The levels stop when no line is pending or the `maxSplits` levels are spent. -/
inductive Levels (maxSplits : Nat) : Nat → List Item → List (List Call) → List Item → Prop
  | finished {lvl : Nat} : Levels maxSplits lvl [] [] []
  | spent {lvl : Nat} {pending : List Item} : maxSplits < lvl → Levels maxSplits lvl pending [] pending
  | next {lvl : Nat} {pending : List Item} {calls : List Call} {R : List (List Call)}
      {left : List Item} : pending ≠ [] → lvl ≤ maxSplits → calls.map (·.1) = split pending lvl →
      Levels maxSplits (lvl + 1) (calls.flatMap Call.missed) R left →
      Levels maxSplits lvl pending (calls :: R) left

/-- Calls that the oracle answered: each call's answer is the oracle's for its chunk, given
some calls before it. -/
def Answered (o : Oracle) (cs : List Call) : Prop := ∀ c ∈ cs, ∃ log, c.2 = o log c.1

theorem answered_answers (o : Oracle) (log : List Call) (chunks : List (List Item)) :
    Answered o (answers o log chunks) := by
  induction chunks generalizing log with
  | nil => simp [Answered, answers]
  | cons chunk rest ih =>
    intro c hc
    rcases List.mem_cons.mp hc with rfl | hc
    · exact ⟨log, rfl⟩
    · exact ih _ c hc

theorem run_levels_answered {o : Oracle} (ho : Settles o) (maxSplits : Nat) :
    ∀ (left lvl : Nat) (pending : List Item) (done : Translations) (log : List Call),
      left + lvl = maxSplits + 1 →
      ∃ R rest, Levels maxSplits lvl pending R rest ∧ Answered o R.flatten ∧
        (levels (recorded o) maxSplits left lvl pending done).run log =
          (.ok (R.flatten.foldl record done, rest), log ++ R.flatten) := by
  intro left
  induction left with
  | zero =>
    intro lvl pending done log hlvl
    refine ⟨[], pending, .spent (by omega), by simp [Answered], ?_⟩
    simp only [levels, List.flatten_nil, List.foldl_nil, List.append_nil]
    rfl
  | succ left ih =>
    intro lvl pending done log hlvl
    by_cases hp : pending = []
    · subst hp
      refine ⟨[], [], .finished, by simp [Answered], ?_⟩
      simp only [levels, List.isEmpty_nil, if_true, List.flatten_nil, List.foldl_nil, List.append_nil]
      rfl
    · have hlvl' : left + (lvl + 1) = maxSplits + 1 := by omega
      obtain ⟨R, rest, hR, hans, hrun⟩ := ih (lvl + 1)
        ((answers o log (split pending lvl)).flatMap Call.missed)
        ((answers o log (split pending lvl)).foldl record done) (log ++ answers o log (split pending lvl)) hlvl'
      refine ⟨answers o log (split pending lvl) :: R, rest, .next hp (by omega) (map_fst_answers _ _ _) hR,
        fun c hc => ?_, ?_⟩
      · rw [List.flatten_cons, List.mem_append] at hc
        exact hc.elim (answered_answers o log _ c) (hans c)
      · have hne : pending.isEmpty = false := List.isEmpty_eq_false_iff.2 hp
        simp only [List.flatten_cons, List.foldl_append, ← List.append_assoc]
        rw [← hrun]
        simp [levels, hne, run_level ho, foldl_settle]
        rfl

theorem run_levels {o : Oracle} (ho : Settles o) (maxSplits : Nat) :
    ∀ (left lvl : Nat) (pending : List Item) (done : Translations) (log : List Call),
      left + lvl = maxSplits + 1 →
      ∃ R rest, Levels maxSplits lvl pending R rest ∧
        (levels (recorded o) maxSplits left lvl pending done).run log =
          (.ok (R.flatten.foldl record done, rest), log ++ R.flatten) := by
  intro left lvl pending done log hlvl
  obtain ⟨R, rest, hR, -, hrun⟩ := run_levels_answered ho maxSplits left lvl pending done log hlvl
  exact ⟨R, rest, hR, hrun⟩

theorem run_fallback_answered {o : Oracle} (ho : Settles o) (maxSplits : Nat) (items : List Item) :
    ∃ R left, Levels maxSplits 1 (items.filter fun it => Text.isMeaningful it.2) R left ∧
      Answered o R.flatten ∧
      (fallback (recorded o) maxSplits items).run [] =
        (if left = [] then .ok (R.flatten.foldl record [])
          else .error (.batchExhausted left.length (left.map (·.1)) (R.flatten.foldl record [])),
          R.flatten) := by
  obtain ⟨R, left, hR, hans, hrun⟩ := run_levels_answered ho maxSplits maxSplits 1
    (items.filter fun it => Text.isMeaningful it.2) [] [] rfl
  refine ⟨R, left, hR, hans, ?_⟩
  rw [List.nil_append] at hrun
  unfold fallback
  -- the run of the levels is a plain value, so the rest of the block computes
  cases left with
  | nil => simp [hrun]; rfl
  | cons x xs => simp [hrun]; rfl

theorem run_fallback {o : Oracle} (ho : Settles o) (maxSplits : Nat) (items : List Item) :
    ∃ R left, Levels maxSplits 1 (items.filter fun it => Text.isMeaningful it.2) R left ∧
      (fallback (recorded o) maxSplits items).run [] =
        (if left = [] then .ok (R.flatten.foldl record [])
          else .error (.batchExhausted left.length (left.map (·.1)) (R.flatten.foldl record [])),
          R.flatten) := by
  obtain ⟨R, left, hR, -, hrun⟩ := run_fallback_answered ho maxSplits items
  exact ⟨R, left, hR, hrun⟩

/-! ### What the calls of a level translate -/

theorem translates_eq_none {c : Call} {p : Nat} (h : p ∉ c.1.map (·.1)) : c.translates p = none := by
  simp [Call.translates, h]

theorem translates_of_mem {c : Call} {it : Item} (h : it ∈ c.1) : c.translates it.1 = c.answer it.1 := by
  simp [Call.translates, List.mem_map_of_mem h]

/-- A position that no chunk of the calls holds is translated by none of them. -/
theorem filterMap_translates_eq_nil {cs : List Call} {p : Nat}
    (h : p ∉ (cs.flatMap (·.1)).map (·.1)) : cs.filterMap (·.translates p) = [] := by
  refine List.filterMap_eq_nil_iff.2 fun c hc => translates_eq_none fun hp => h ?_
  obtain ⟨it, hit, rfl⟩ := List.mem_map.1 hp
  exact List.mem_map_of_mem (List.mem_flatMap.2 ⟨c, hc, hit⟩)

section Level

variable {cs : List Call} (hnd : ((cs.flatMap (·.1)).map (·.1)).Nodup)
include hnd

/-- When the chunks of the calls hold each position once, one call at most translates it. -/
theorem length_filterMap_translates_le (p : Nat) : (cs.filterMap (·.translates p)).length ≤ 1 := by
  induction cs with
  | nil => simp
  | cons c cs ih =>
    rw [List.flatMap_cons, List.map_append, List.nodup_append] at hnd
    by_cases hp : p ∈ c.1.map (·.1)
    · have hrest : cs.filterMap (·.translates p) = [] :=
        filterMap_translates_eq_nil fun hq => hnd.2.2 p hp p hq rfl
      rw [List.filterMap_cons, hrest]
      cases c.translates p <;> simp
    · rw [List.filterMap_cons, translates_eq_none hp]
      exact ih hnd.2.1

/-- The lines a level leaves are the lines of its chunks that no call translates, in order. -/
theorem flatMap_missed :
    cs.flatMap Call.missed =
      (cs.flatMap (·.1)).filter fun it => cs.all fun c => (c.translates it.1).isNone := by
  induction cs with
  | nil => rfl
  | cons c cs ih =>
    rw [List.flatMap_cons, List.map_append, List.nodup_append] at hnd
    rw [List.flatMap_cons, List.flatMap_cons, List.filter_append, ih hnd.2.1]
    congr 1
    · unfold Call.missed
      refine List.filter_congr fun it hit => ?_
      have hrest : cs.filterMap (·.translates it.1) = [] :=
        filterMap_translates_eq_nil fun hq => hnd.2.2 it.1 (List.mem_map_of_mem hit) it.1 hq rfl
      have hall : (cs.all fun c => (c.translates it.1).isNone) = true := by
        simpa [List.all_eq_true, List.filterMap_eq_nil_iff] using hrest
      simp [translates_of_mem hit, hall]
    · refine List.filter_congr fun it hit => ?_
      have hc : c.translates it.1 = none :=
        translates_eq_none fun hq => hnd.2.2 it.1 hq it.1 (List.mem_map_of_mem hit) rfl
      simp [hc]

end Level

namespace Levels

variable {maxSplits lvl : Nat} {pending left : List Item} {R : List (List Call)}

/-- The chunks of a level hold its pending lines, each once, in order. -/
theorem flatMap_chunks {calls : List Call} (h : calls.map (·.1) = split pending lvl) :
    calls.flatMap (·.1) = pending := by
  rw [List.flatMap_def, h, flatten_split]

/-- Only pending lines are sent. -/
theorem sent (h : Levels maxSplits lvl pending R left) : ∀ c ∈ R.flatten, ∀ it ∈ c.1, it ∈ pending := by
  induction h with
  | finished => simp
  | spent _ => simp
  | next _ _ hsplit _ ih =>
    intro c hc it hit
    rw [← flatMap_chunks hsplit]
    rw [List.flatten_cons, List.mem_append] at hc
    rcases hc with hc | hc
    · exact List.mem_flatMap.2 ⟨c, hc, hit⟩
    · obtain ⟨c', hc', hm⟩ := List.mem_flatMap.1 (ih c hc it hit)
      exact List.mem_flatMap.2 ⟨c', hc', List.mem_of_mem_filter hm⟩

/-- The lines a level leaves are its pending lines that no call of it translates. -/
theorem next_eq {calls : List Call} (h : calls.map (·.1) = split pending lvl)
    (hnd : (pending.map (·.1)).Nodup) :
    calls.flatMap Call.missed =
      pending.filter fun it => calls.all fun c => (c.translates it.1).isNone := by
  have hcs := flatMap_chunks h
  rw [← hcs] at hnd ⊢
  exact flatMap_missed hnd

theorem nodup_filter {xs : List Item} (hnd : (xs.map (·.1)).Nodup) (f : Item → Bool) :
    ((xs.filter f).map (·.1)).Nodup :=
  hnd.sublist ((List.filter_sublist).map _)

/-- The lines left at the end are the pending lines that no call translates, in order. -/
theorem left_eq (h : Levels maxSplits lvl pending R left) (hnd : (pending.map (·.1)).Nodup) :
    left = pending.filter fun it => R.flatten.all fun c => (c.translates it.1).isNone := by
  induction h with
  | finished => rfl
  | spent _ => simp
  | @next lvl pending calls R left _ _ hsplit _ ih =>
    have hnext := next_eq hsplit hnd
    rw [ih (hnext ▸ nodup_filter hnd _), hnext, List.filter_filter, List.flatten_cons]
    congr 1
    funext it
    rw [List.all_append, Bool.and_comm]

/-- No position is translated twice, and none that was not pending. -/
theorem translations_le (h : Levels maxSplits lvl pending R left) (hnd : (pending.map (·.1)).Nodup)
    (p : Nat) : (R.flatten.filterMap (·.translates p)).length ≤ 1 ∧
      (p ∉ pending.map (·.1) → R.flatten.filterMap (·.translates p) = []) := by
  induction h with
  | finished => simp
  | spent _ => simp
  | @next lvl pending calls R left _ _ hsplit _ ih =>
    have hcs := flatMap_chunks hsplit
    have hnext := next_eq hsplit hnd
    obtain ⟨ih1, ih2⟩ := ih (hnext ▸ nodup_filter hnd _)
    have hsub : ∀ q, q ∈ (calls.flatMap Call.missed).map (·.1) → q ∈ pending.map (·.1) := by
      intro q hq
      rw [hnext] at hq
      obtain ⟨it, hit, rfl⟩ := List.mem_map.1 hq
      exact List.mem_map_of_mem (List.mem_of_mem_filter hit)
    rw [List.flatten_cons, List.filterMap_append]
    refine ⟨?_, fun hp => ?_⟩
    · by_cases hc : calls.filterMap (·.translates p) = []
      · rw [hc, List.nil_append]
        exact ih1
      · -- a position translated at this level is not pending at the next
        have hgone : p ∉ (calls.flatMap Call.missed).map (·.1) := by
          intro hq
          rw [hnext] at hq
          obtain ⟨it, hit, rfl⟩ := List.mem_map.1 hq
          have hall := (List.mem_filter.1 hit).2
          exact hc (List.filterMap_eq_nil_iff.2 fun c hc' => by
            simpa using (List.all_eq_true.1 hall) c hc')
        rw [ih2 hgone, List.append_nil]
        exact length_filterMap_translates_le (hcs ▸ hnd) p
    · rw [filterMap_translates_eq_nil (hcs ▸ hp), ih2 fun hq => hp (hsub p hq)]
      rfl

/-- The positions the calls translate are the pending ones that are not left. -/
theorem translated_iff (h : Levels maxSplits lvl pending R left) (hnd : (pending.map (·.1)).Nodup)
    (p : Nat) : R.flatten.filterMap (·.translates p) ≠ [] ↔
      p ∈ pending.map (·.1) ∧ p ∉ left.map (·.1) := by
  rw [h.left_eq hnd]
  constructor
  · intro ht
    refine ⟨by_contra fun hp => ht ((h.translations_le hnd p).2 hp), fun hl => ht ?_⟩
    obtain ⟨it, hit, rfl⟩ := List.mem_map.1 hl
    have hall := (List.mem_filter.1 hit).2
    exact List.filterMap_eq_nil_iff.2 fun c hc => by simpa using (List.all_eq_true.1 hall) c hc
  · rintro ⟨hp, hl⟩ ht
    obtain ⟨it, hit, rfl⟩ := List.mem_map.1 hp
    refine hl (List.mem_map_of_mem (List.mem_filter.2 ⟨hit, List.all_eq_true.2 fun c hc => ?_⟩))
    have := List.filterMap_eq_nil_iff.1 ht c hc
    simp [this]

end Levels

/-! ### The outcome -/

/-- The lines graduated splitting sends: those with something to translate. -/
def toSend (items : List Item) : List Item := items.filter fun it => Text.isMeaningful it.2

/-- A call translates a position only to a text that is not blank. -/
theorem nonblank_of_translates {c : Call} {p : Nat} {v : String} (h : c.translates p = some v) :
    Text.isBlankText v = false := by
  unfold Call.translates Call.answer textIn at h
  split_ifs at h
  split at h
  · simpa using (Option.filter_eq_some_iff.1 h).2
  · cases h

/-- The translations `t` are those the calls made: each position reads the text of the one call
that translated it, never blank, and exactly the positions of `lines` that are not `left` have
one. -/
structure Collected (calls : List Call) (lines left : List Item) (t : Translations) : Prop where
  get?_eq : ∀ p, t.get? p = (calls.filterMap (·.translates p)).head?
  nonblank : ∀ p v, t.get? p = some v → Text.isBlankText v = false
  keys : ∀ p, (t.get? p).isSome ↔ p ∈ lines.map (·.1) ∧ p ∉ left.map (·.1)

theorem getLast?_eq_head? {α : Type} {l : List α} (h : l.length ≤ 1) : l.getLast? = l.head? := by
  match l, h with
  | [], _ => rfl
  | [_], _ => rfl

theorem collected_record {maxSplits : Nat} {R : List (List Call)} {lines left : List Item}
    (h : Levels maxSplits 1 lines R left) (hnd : (lines.map (·.1)).Nodup) :
    Collected R.flatten lines left (R.flatten.foldl record []) := by
  have hget : ∀ p, (R.flatten.foldl record []).get? p = (R.flatten.filterMap (·.translates p)).head? := by
    intro p
    rw [get?_foldl_record, Translations.get?_nil, Option.or_none,
      getLast?_eq_head? (h.translations_le hnd p).1]
  refine ⟨hget, fun p v hv => ?_, fun p => ?_⟩
  · rw [hget, List.head?_eq_some_iff] at hv
    obtain ⟨rest, hrest⟩ := hv
    have hmem : v ∈ R.flatten.filterMap (·.translates p) := by rw [hrest]; exact List.mem_cons_self
    obtain ⟨c, -, hc⟩ := List.mem_filterMap.1 hmem
    exact nonblank_of_translates hc
  · rw [hget, ← h.translated_iff hnd p, Option.isSome_iff_ne_none, ne_eq, ne_eq, List.head?_eq_none_iff]

/-- Graduated splitting with a backend that always answers: level after level it sends the
pending lines split into more chunks, the lines a level does not translate and nothing else are
pending at the next, only lines with something to translate are sent, no position is translated
twice, and the answer holds every translation made, each the text of the call that made it,
with an error that names the lines left, in their order, when any are. -/
theorem fallback_sends_until_translated (o : Oracle) (ho : Settles o) (maxSplits : Nat)
    (items : List Item) (hpos : (items.map (·.1)).Nodup) :
    ∃ (R : List (List Call)) (left : List Item) (t : Translations),
      Levels maxSplits 1 (toSend items) R left ∧
      (fallback (recorded o) maxSplits items).run [] =
        (if left = [] then .ok t else .error (.batchExhausted left.length (left.map (·.1)) t),
          R.flatten) ∧
      (∀ c ∈ R.flatten, ∀ it ∈ c.1, it ∈ toSend items) ∧
      left = (toSend items).filter (fun it => R.flatten.all fun c => (c.translates it.1).isNone) ∧
      (∀ p, (R.flatten.filterMap (·.translates p)).length ≤ 1) ∧
      Collected R.flatten (toSend items) left t := by
  obtain ⟨R, left, hR, hrun⟩ := run_fallback ho maxSplits items
  have hnd : ((toSend items).map (·.1)).Nodup := Levels.nodup_filter hpos _
  exact ⟨R, left, _, hR, hrun, hR.sent, hR.left_eq hnd, fun p => (hR.translations_le hnd p).1,
    collected_record hR hnd⟩

/-- A backend that translates every line but the second, with two split levels: the third line
has nothing to translate and is never sent. -/
theorem fallback_sends_until_translated_sample :
    Settles (fun _ chunk => .ok (chunk.filterMap fun it =>
      if it.1 = 2 then none else some (it.1, "[fr] " ++ it.2))) ∧
    (([(1, "Hello"), (2, "World"), (3, "...")] : List Item).map (·.1)).Nodup ∧
    ∃ (R : List (List Call)) (left : List Item) (t : Translations),
      Levels 2 1 (toSend [(1, "Hello"), (2, "World"), (3, "...")]) R left ∧
      (fallback (recorded fun _ chunk => .ok (chunk.filterMap fun it =>
          if it.1 = 2 then none else some (it.1, "[fr] " ++ it.2))) 2
        [(1, "Hello"), (2, "World"), (3, "...")]).run [] =
        (if left = [] then .ok t else .error (.batchExhausted left.length (left.map (·.1)) t),
          R.flatten) ∧
      (∀ c ∈ R.flatten, ∀ it ∈ c.1, it ∈ toSend [(1, "Hello"), (2, "World"), (3, "...")]) ∧
      left = (toSend [(1, "Hello"), (2, "World"), (3, "...")]).filter
        (fun it => R.flatten.all fun c => (c.translates it.1).isNone) ∧
      (∀ p, (R.flatten.filterMap (·.translates p)).length ≤ 1) ∧
      Collected R.flatten (toSend [(1, "Hello"), (2, "World"), (3, "...")]) left t :=
  ⟨fun _ _ => .inl ⟨_, rfl⟩, by decide,
    fallback_sends_until_translated _ (fun _ _ => .inl ⟨_, rfl⟩) 2 _ (by decide)⟩

end SubtitleQueue.Batch
