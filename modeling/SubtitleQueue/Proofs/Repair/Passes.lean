import Mathlib
import SubtitleQueue.Repair.Run
import SubtitleQueue.Proofs.Batch.Chunks
import SubtitleQueue.Proofs.Repair.Windows

/-!
# Deferred repair

A repair runs here against a backend that answers each chunk from the calls made before it
(an `Oracle`), in a job that is stopped when `stop` says so, given the calls made. A call
offers the repair the translations its answer yields (`offered`), also when the batch ran out
of splits; the first text offered for a position (`firstOffer`) is the one the repair keeps,
and a failed position that no call has offered yet is missing. One pass (`Sweep`) sends, in
order, every chunk that holds a missing failed position when its turn comes, and ends at the
first stop or failure; passes (`Passes`) follow one another while a failed position is
missing and the budget lasts. What a pass carries, the translations kept and the positions
missing, is exactly what the calls made so far account for (`Tracks`), so the answer is read
off the calls: every failed position with the first text offered for it when all were
offered, and otherwise how many were not, with the texts of the first three.
-/

namespace SubtitleQueue.Repair

open Batch

/-! ### What the calls offer -/

/-- The translations an answer offers the repair; none when it fails. -/
def offered (r : Except JobError Translations) : Translations :=
  match harvest r with
  | .ok m => m
  | .error _ => []

/-- The first text the calls offer a position, in the order they were made. -/
def firstOffer (log : List Call) (p : Nat) : Option String :=
  log.findSome? fun c => (offered c.2).get? p

/-- A chunk is due when it holds a failed position that no call has offered yet. -/
def Due (F : List Nat) (log : List Call) (chunk : List Item) : Prop :=
  ∃ it ∈ chunk, it.1 ∈ F ∧ firstOffer log it.1 = none

/-- Every failed position has been offered. -/
def Settled (F : List Nat) (log : List Call) : Prop :=
  ∀ p ∈ F, firstOffer log p ≠ none

theorem firstOffer_append_singleton (log : List Call) (c : Call) (p : Nat) :
    firstOffer (log ++ [c]) p = (firstOffer log p).or ((offered c.2).get? p) := by
  simp [firstOffer]

theorem Translations.get?_cons (pt : Nat × String) (m : Translations) (q : Nat) :
    Translations.get? (pt :: m) q = (if q = pt.1 then some pt.2 else none).or (m.get? q) := by
  by_cases hq : q = pt.1
  · simp [Translations.get?, hq]
  · have hb : (pt.1 == q) = false := beq_eq_false_iff_ne.2 (Ne.symm hq)
    simp [Translations.get?, hq, hb]

/-- A failure other than a batch that ran out of splits is passed on unchanged. -/
theorem harvest_eq_error {r : Except JobError Translations} {err : JobError}
    (h : harvest r = .error err) : r = .error err ∧ ∀ n m done, err ≠ .batchExhausted n m done := by
  unfold harvest at h
  split at h
  · cases h
  · cases h
  · cases h
    refine ⟨rfl, fun n m done herr => ?_⟩
    subst herr
    rename_i hne
    exact hne _ _ _ rfl

/-! ### A backend that answers from the calls before -/

/-- Effects that ask `stop` whether the job was stopped, given the calls made; send each
chunk to `o` and record the call; and drop log lines. -/
def oracleEffects (o : Oracle) (stop : List Call → Bool) : Effects (StateM (List Call)) where
  cancelled := do return stop (← get)
  translate chunk := modifyGet fun log => (o log chunk, log ++ [(chunk, o log chunk)])
  say _ _ := pure ()
  note _ _ := pure ()

@[simp] theorem oracleEffects_say (o : Oracle) (stop : List Call → Bool) (l : Log.Level) (s : String) :
    (oracleEffects o stop).say l s = pure () := rfl

@[simp] theorem oracleEffects_note (o : Oracle) (stop : List Call → Bool) (l : Log.Level) (s : String) :
    (oracleEffects o stop).note l s = pure () := rfl

/-- One pass over the chunks after the calls `log`: each chunk that is due is sent when the
job was not stopped, and gets the oracle's answer; the pass ends at the first stop or failure
it meets, with `none` when it meets neither. -/
inductive Sweep (o : Oracle) (stop : List Call → Bool) (F : List Nat) :
    List Call → List (List Item) → List Call → Option JobError → Prop
  | done {log : List Call} : Sweep o stop F log [] [] none
  | skip {log : List Call} {chunk : List Item} {rest : List (List Item)} {cs : List Call}
      {r : Option JobError} :
      ¬ Due F log chunk → Sweep o stop F log rest cs r → Sweep o stop F log (chunk :: rest) cs r
  | stopped {log : List Call} {chunk : List Item} {rest : List (List Item)} :
      Due F log chunk → stop log = true → Sweep o stop F log (chunk :: rest) [] (some .cancelled)
  | failed {log : List Call} {chunk : List Item} {rest : List (List Item)} {err : JobError} :
      Due F log chunk → stop log = false → harvest (o log chunk) = .error err →
      Sweep o stop F log (chunk :: rest) [(chunk, o log chunk)] (some err)
  | sent {log : List Call} {chunk : List Item} {rest : List (List Item)} {cs : List Call}
      {r : Option JobError} {answer : Translations} :
      Due F log chunk → stop log = false → harvest (o log chunk) = .ok answer →
      Sweep o stop F (log ++ [(chunk, o log chunk)]) rest cs r →
      Sweep o stop F log (chunk :: rest) ((chunk, o log chunk) :: cs) r

/-- The passes of a repair after the calls `log`, with `left` passes allowed: while a failed
position is missing and a pass is left, one more sweep, until one ends at a stop or failure. -/
inductive Passes (o : Oracle) (stop : List Call → Bool) (F : List Nat)
    (chunks : List (List Item)) : Nat → List Call → List (List Call) → Option JobError → Prop
  | spent {log : List Call} : Passes o stop F chunks 0 log [] none
  | settled {left : Nat} {log : List Call} :
      Settled F log → Passes o stop F chunks (left + 1) log [] none
  | broken {left : Nat} {log cs : List Call} {err : JobError} :
      ¬ Settled F log → Sweep o stop F log chunks cs (some err) →
      Passes o stop F chunks (left + 1) log [cs] (some err)
  | swept {left : Nat} {log cs : List Call} {R : List (List Call)} {r : Option JobError} :
      ¬ Settled F log → Sweep o stop F log chunks cs none →
      Passes o stop F chunks left (log ++ cs) R r → Passes o stop F chunks (left + 1) log (cs :: R) r

/-! ### One step of a pass, and of the passes -/

section Steps

variable (o : Oracle) (stop : List Call → Bool) (chunks : List (List Item)) (chunk : List Item)
  (rest : List (List Item)) (got : Translations) (missing : List Nat) (log : List Call)

theorem run_pass_nil :
    (pass (oracleEffects o stop) [] got missing).run log = (.ok (got, missing), log) :=
  rfl

theorem run_pass_skip (hdue : (chunk.any fun it => missing.contains it.1) = false) :
    (pass (oracleEffects o stop) (chunk :: rest) got missing).run log =
      (pass (oracleEffects o stop) rest got missing).run log := by
  rw [pass]
  simp only [hdue, Bool.not_false, if_true]

theorem run_pass_stopped (hdue : (chunk.any fun it => missing.contains it.1) = true)
    (hstop : stop log = true) :
    (pass (oracleEffects o stop) (chunk :: rest) got missing).run log = (.error .cancelled, log) := by
  rw [pass]
  simp only [hdue, Bool.not_true, Bool.false_eq_true, if_false]
  simp [oracleEffects, hstop]
  rfl

theorem run_pass_failed (hdue : (chunk.any fun it => missing.contains it.1) = true)
    (hstop : stop log = false) {err : JobError} (hh : harvest (o log chunk) = .error err) :
    (pass (oracleEffects o stop) (chunk :: rest) got missing).run log =
      (.error err, log ++ [(chunk, o log chunk)]) := by
  rw [pass]
  simp only [hdue, Bool.not_true, Bool.false_eq_true, if_false]
  simp [oracleEffects, hstop, hh]
  rfl

theorem run_pass_sent (hdue : (chunk.any fun it => missing.contains it.1) = true)
    (hstop : stop log = false) {answer : Translations} (hh : harvest (o log chunk) = .ok answer) :
    (pass (oracleEffects o stop) (chunk :: rest) got missing).run log =
      (pass (oracleEffects o stop) rest (answer.foldl adopt (got, missing)).1
        (answer.foldl adopt (got, missing)).2).run (log ++ [(chunk, o log chunk)]) := by
  rw [pass]
  simp only [hdue, Bool.not_true, Bool.false_eq_true, if_false]
  simp [oracleEffects, hstop, hh]

theorem run_passes_zero (p : Nat) :
    (passes (oracleEffects o stop) chunks 0 p got missing).run log = (.ok (got, missing), log) :=
  rfl

theorem run_passes_settled (left p : Nat) (hempty : missing.isEmpty = true) :
    (passes (oracleEffects o stop) chunks (left + 1) p got missing).run log =
      (.ok (got, missing), log) := by
  rw [passes]
  simp only [hempty, if_true]
  rfl

theorem run_passes_broken (left p : Nat) (hempty : missing.isEmpty = false) {err : JobError}
    {log' : List Call} (hrun : (pass (oracleEffects o stop) chunks got missing).run log = (.error err, log')) :
    (passes (oracleEffects o stop) chunks (left + 1) p got missing).run log = (.error err, log') := by
  rw [passes]
  simp only [hempty, Bool.false_eq_true, if_false]
  simp [hrun]
  rfl

theorem run_passes_swept (left p : Nat) (hempty : missing.isEmpty = false)
    {acc : Translations × List Nat} {log' : List Call}
    (hrun : (pass (oracleEffects o stop) chunks got missing).run log = (.ok acc, log')) :
    (passes (oracleEffects o stop) chunks (left + 1) p got missing).run log =
      (passes (oracleEffects o stop) chunks left (p + 1) acc.1 acc.2).run log' := by
  rw [passes]
  simp only [hempty, Bool.false_eq_true, if_false]
  simp [hrun]
  rfl

end Steps

section Runs

variable {o : Oracle} {stop : List Call → Bool} {F : List Nat} {chunks : List (List Item)}

/-- No more passes than the budget. -/
theorem Passes.length_le {left : Nat} {log : List Call} {R : List (List Call)} {r : Option JobError}
    (h : Passes o stop F chunks left log R r) : R.length ≤ left := by
  induction h with
  | spent | settled _ => simp
  | broken _ _ => simp
  | swept _ _ _ ih => simpa using ih

/-- With a failed position missing and a pass allowed, one pass is made. -/
theorem Passes.length_pos {left : Nat} {log : List Call} {R : List (List Call)} {r : Option JobError}
    (h : Passes o stop F chunks left log R r) (hleft : 0 < left) (hmissing : ¬ Settled F log) :
    0 < R.length := by
  cases h with
  | spent => omega
  | settled hs => exact absurd hs hmissing
  | broken _ _ => simp
  | swept _ _ _ => simp

/-! ### What a pass carries -/

/-- The translations kept and the positions missing, as the offers `off` account for them:
missing are the failed positions offered nothing, in order; kept is the offer for each failed
position, and nothing else. -/
structure Tracks (F : List Nat) (off : Nat → Option String) (got : Translations)
    (missing : List Nat) : Prop where
  missing_eq : missing = F.filter fun p => (off p).isNone
  get?_eq : ∀ q, got.get? q = if q ∈ F then off q else none

theorem Tracks.congr {off off' : Nat → Option String} {got : Translations} {missing : List Nat}
    (h : Tracks F off got missing) (heq : ∀ q, off q = off' q) : Tracks F off' got missing := by
  obtain rfl : off = off' := funext heq
  exact h

theorem Tracks.mem_missing {off : Nat → Option String} {got : Translations} {missing : List Nat}
    (h : Tracks F off got missing) (p : Nat) : p ∈ missing ↔ p ∈ F ∧ off p = none := by
  rw [h.missing_eq]
  simp

/-- Taking one offered translation keeps the account: a missing position takes it, any other
is left as it was. -/
theorem Tracks.adopt (hF : F.Nodup) {off : Nat → Option String} {got : Translations}
    {missing : List Nat} (h : Tracks F off got missing) (pt : Nat × String) :
    Tracks F (fun q => (off q).or (if q = pt.1 then some pt.2 else none))
      (adopt (got, missing) pt).1 (adopt (got, missing) pt).2 := by
  by_cases hp : pt.1 ∈ missing
  · obtain ⟨hpF, hpoff⟩ := (h.mem_missing pt.1).1 hp
    have hcontains : missing.contains pt.1 = true := by simpa using hp
    simp only [Repair.adopt, hcontains, if_true]
    constructor
    · -- the position leaves the missing ones: they are one list without repeats
      have hnd : missing.Nodup := h.missing_eq ▸ hF.filter _
      rw [hnd.erase_eq_filter, h.missing_eq, List.filter_filter]
      refine List.filter_congr fun q _ => ?_
      by_cases hq : q = pt.1 <;> simp [hq, hpoff]
    · intro q
      rw [Translations.get?_put, h.get?_eq]
      by_cases hq : q = pt.1
      · subst hq
        simp [hpF, hpoff]
      · simp [hq]
  · have hcontains : missing.contains pt.1 = false := by simpa using hp
    simp only [Repair.adopt, hcontains, Bool.false_eq_true, if_false]
    -- an offer for a position that is not missing changes nothing the account reads
    have hsame : ∀ q ∈ F, (off q).or (if q = pt.1 then some pt.2 else none) = off q := by
      intro q hq
      by_cases hqp : q = pt.1
      · have hoff : off q ≠ none := fun hn => hp (hqp ▸ (h.mem_missing q).2 ⟨hq, hn⟩)
        obtain ⟨t, ht⟩ := Option.ne_none_iff_exists'.1 hoff
        rw [ht]
        rfl
      · simp [hqp]
    constructor
    · rw [h.missing_eq]
      exact List.filter_congr fun q hq => by rw [hsame q hq]
    · intro q
      rw [h.get?_eq]
      by_cases hq : q ∈ F
      · simp [hq, hsame q hq]
      · simp [hq]

/-- Taking an answer's translations in order keeps the account, with the answer's offers
after the earlier ones. -/
theorem Tracks.foldl_adopt (hF : F.Nodup) (answer : Translations) :
    ∀ {off : Nat → Option String} {got : Translations} {missing : List Nat},
      Tracks F off got missing →
      Tracks F (fun q => (off q).or (answer.get? q))
        (answer.foldl Repair.adopt (got, missing)).1 (answer.foldl Repair.adopt (got, missing)).2 := by
  induction answer with
  | nil =>
    intro off got missing h
    exact h.congr fun q => by simp
  | cons pt answer ih =>
    intro off got missing h
    have hstep := ih (h.adopt hF pt)
    rw [List.foldl_cons]
    exact hstep.congr fun q => by rw [Translations.get?_cons, Option.or_assoc]

/-- A call whose answer the repair takes keeps the account of the calls made. -/
theorem Tracks.call (hF : F.Nodup) {log : List Call} {got : Translations} {missing : List Nat}
    (h : Tracks F (firstOffer log) got missing) (c : Call) {answer : Translations}
    (hc : harvest c.2 = .ok answer) :
    Tracks F (firstOffer (log ++ [c]))
      (answer.foldl Repair.adopt (got, missing)).1 (answer.foldl Repair.adopt (got, missing)).2 := by
  have hoff : offered c.2 = answer := by simp [offered, hc]
  exact (h.foldl_adopt hF answer).congr fun q => by rw [firstOffer_append_singleton, hoff]

theorem Tracks.any_iff {log : List Call} {got : Translations} {missing : List Nat}
    (h : Tracks F (firstOffer log) got missing) (chunk : List Item) :
    (chunk.any fun it => missing.contains it.1) = true ↔ Due F log chunk := by
  simp only [List.any_eq_true, List.contains_iff_mem, h.mem_missing, Due]

theorem Tracks.isEmpty_iff {log : List Call} {got : Translations} {missing : List Nat}
    (h : Tracks F (firstOffer log) got missing) : missing.isEmpty = true ↔ Settled F log := by
  rw [List.isEmpty_iff, h.missing_eq, List.filter_eq_nil_iff]
  simp [Settled]

/-- How a pass, or the passes, end after the calls `log`: with the translations kept and the
positions missing that the calls account for, or with the failure that stopped them. -/
def Closes (F : List Nat) (log : List Call) :
    Option JobError → Except JobError (Translations × List Nat) → Prop
  | none, .ok acc => Tracks F (firstOffer log) acc.1 acc.2
  | some err, .error err' => err' = err
  | _, _ => False

variable (o stop) in
/-- A pass from any account of the calls made: its calls are a sweep, and it ends as the
sweep does. -/
theorem run_pass (hF : F.Nodup) (chunks : List (List Item)) :
    ∀ (log : List Call) (got : Translations) (missing : List Nat),
      Tracks F (firstOffer log) got missing →
      ∃ cs r res, Sweep o stop F log chunks cs r ∧
        (pass (oracleEffects o stop) chunks got missing).run log = (res, log ++ cs) ∧
        Closes F (log ++ cs) r res := by
  -- induction on the chunks, over every account: each sent chunk extends the calls by one
  induction chunks with
  | nil =>
    intro log got missing h
    exact ⟨[], none, .ok (got, missing), .done, by simp [run_pass_nil], by simpa [Closes] using h⟩
  | cons chunk rest ih =>
    intro log got missing h
    cases hdue : chunk.any fun it => missing.contains it.1 with
    | false =>
      have hd : ¬ Due F log chunk := fun hd => absurd ((h.any_iff chunk).2 hd) (by rw [hdue]; decide)
      obtain ⟨cs, r, res, hsw, hrun, hcl⟩ := ih log got missing h
      exact ⟨cs, r, res, .skip hd hsw, by rw [run_pass_skip o stop chunk rest got missing log hdue, hrun], hcl⟩
    | true =>
      have hd : Due F log chunk := (h.any_iff chunk).1 hdue
      cases hstop : stop log with
      | true =>
        exact ⟨[], some .cancelled, .error .cancelled, .stopped hd hstop,
          by simp [run_pass_stopped o stop chunk rest got missing log hdue hstop], rfl⟩
      | false =>
        cases hh : harvest (o log chunk) with
        | error err =>
          exact ⟨[(chunk, o log chunk)], some err, .error err, .failed hd hstop hh,
            run_pass_failed o stop chunk rest got missing log hdue hstop hh, rfl⟩
        | ok answer =>
          obtain ⟨cs, r, res, hsw, hrun, hcl⟩ := ih _ _ _ (h.call hF (chunk, o log chunk) hh)
          refine ⟨(chunk, o log chunk) :: cs, r, res, .sent hd hstop hh hsw, ?_, by simpa using hcl⟩
          rw [run_pass_sent o stop chunk rest got missing log hdue hstop hh, hrun]
          simp

variable (o stop) in
/-- The passes from any account of the calls made: their calls, pass by pass, follow
`Passes`, and they end as their last pass does. -/
theorem run_passes (hF : F.Nodup) (chunks : List (List Item)) (left : Nat) :
    ∀ (p : Nat) (log : List Call) (got : Translations) (missing : List Nat),
      Tracks F (firstOffer log) got missing →
      ∃ R r res, Passes o stop F chunks left log R r ∧
        (passes (oracleEffects o stop) chunks left p got missing).run log = (res, log ++ R.flatten) ∧
        Closes F (log ++ R.flatten) r res := by
  -- induction on the passes left; the account carries over from one pass to the next
  induction left with
  | zero =>
    intro p log got missing h
    exact ⟨[], none, .ok (got, missing), .spent, by simp [run_passes_zero], by simpa [Closes] using h⟩
  | succ left ih =>
    intro p log got missing h
    cases hempty : missing.isEmpty with
    | true =>
      exact ⟨[], none, .ok (got, missing), .settled (h.isEmpty_iff.1 hempty),
        by simp [run_passes_settled o stop chunks got missing log left p hempty],
        by simpa [Closes] using h⟩
    | false =>
      have hns : ¬ Settled F log := fun hs => absurd (h.isEmpty_iff.2 hs) (by rw [hempty]; decide)
      obtain ⟨cs, r, res, hsw, hrun, hcl⟩ := run_pass o stop hF chunks log got missing h
      -- the pass ends with a failure, which ends the passes, or with an account to go on from
      cases r with
      | some err =>
        cases res with
        | ok acc => exact (hcl : False).elim
        | error err' =>
          obtain rfl : err' = err := hcl
          exact ⟨[cs], some err', .error err', .broken hns hsw,
            by simpa using run_passes_broken o stop chunks got missing log left p hempty hrun, rfl⟩
      | none =>
        cases res with
        | error err' => exact (hcl : False).elim
        | ok acc =>
          obtain ⟨R, r', res', hps, hrun', hcl'⟩ := ih (p + 1) (log ++ cs) acc.1 acc.2 hcl
          refine ⟨cs :: R, r', res', .swept hns hsw hps, ?_, by simpa using hcl'⟩
          rw [run_passes_swept o stop chunks got missing log left p hempty hrun, hrun']
          simp

end Runs

/-! ### What a repair answers -/

/-- The failed lines that no call in `log` offered a text, in order. -/
def unoffered (failed : List FailedLine) (log : List Call) : List FailedLine :=
  failed.filter fun f => (firstOffer log f.position).isNone

/-- What a repair answers after the calls `log`, when no stop or failure ended it: the first
text offered for each failed position, and nothing for any other position, when every failed
line was offered one; otherwise a failure naming how many were not, with the texts of the
first `exampleCount` of them, in order of position. -/
def Verdict (failed : List FailedLine) (log : List Call) (res : Except JobError Translations) :
    Prop :=
  if unoffered failed log = [] then
    ∃ got, res = .ok got ∧
      ∀ q, got.get? q = if q ∈ failed.map (·.position) then firstOffer log q else none
  else
    res = .error (.repairFailed (unoffered failed log).length
      (((unoffered failed log).map (·.text)).take exampleCount))

theorem map_position_unoffered (failed : List FailedLine) (log : List Call) :
    (unoffered failed log).map (·.position) =
      (failed.map (·.position)).filter fun p => (firstOffer log p).isNone := by
  simp [unoffered, List.filter_map, Function.comp_def]

/-- Among lines with distinct positions, a line is the one found at its position. -/
theorem find?_position_of_mem {failed : List FailedLine} (hnd : (failed.map (·.position)).Nodup)
    {f : FailedLine} (hf : f ∈ failed) : failed.find? (·.position == f.position) = some f := by
  obtain ⟨g, hg⟩ := Option.isSome_iff_exists.1
    ((List.find?_isSome (p := fun g : FailedLine => g.position == f.position)).2 ⟨f, hf, by simp⟩)
  have hpos : g.position = f.position := by simpa using List.find?_some hg
  rw [hg, List.inj_on_of_nodup_map hnd (List.mem_of_find?_eq_some hg) hf hpos]

/-- Lines taken in order from lines in order of position: their positions, sorted and looked
up again, give back their texts in order. -/
theorem texts_of_sorted_positions {failed : List FailedLine}
    (hsorted : (failed.map (·.position)).Pairwise (· < ·)) {U : List FailedLine}
    (hU : U.Sublist failed) :
    ((U.map (·.position)).mergeSort (· ≤ ·)).filterMap
        (fun p => (failed.find? (·.position == p)).map (·.text)) = U.map (·.text) := by
  have hUsorted : (U.map (·.position)).Pairwise (· < ·) := hsorted.sublist (hU.map _)
  rw [List.mergeSort_of_pairwise (hUsorted.imp fun h => by simpa using Nat.le_of_lt h),
    List.filterMap_map, ← List.filterMap_eq_map]
  refine List.filterMap_congr fun f hf => ?_
  simp [find?_position_of_mem hsorted.nodup (hU.subset hf)]

section Answer

variable (o : Oracle) (stop : List Call → Bool) (plan : Plan) (maxBatch maxRetries : Nat)
  {log : List Call}

theorem run_repair_failure {err : JobError}
    (h : (passes (oracleEffects o stop) (chunksOf (max maxBatch 1) plan.items)
      ((maxRetries + 1) % 2 ^ 64) 1 [] (plan.failed.map (·.position))).run [] = (.error err, log)) :
    (repair (oracleEffects o stop) plan maxBatch maxRetries).run [] = (.error err, log) := by
  simp only [Nat.reducePow] at h
  simp only [repair, Nat.pow_eq]
  simp [h]
  rfl

theorem run_repair_recovered {got : Translations}
    (h : (passes (oracleEffects o stop) (chunksOf (max maxBatch 1) plan.items)
      ((maxRetries + 1) % 2 ^ 64) 1 [] (plan.failed.map (·.position))).run [] = (.ok (got, []), log)) :
    (repair (oracleEffects o stop) plan maxBatch maxRetries).run [] = (.ok got, log) := by
  simp only [Nat.reducePow] at h
  simp only [repair, Nat.pow_eq]
  simp [h]
  rfl

theorem run_repair_missing {got : Translations} {missing : List Nat} (hm : missing ≠ [])
    (h : (passes (oracleEffects o stop) (chunksOf (max maxBatch 1) plan.items)
      ((maxRetries + 1) % 2 ^ 64) 1 [] (plan.failed.map (·.position))).run [] =
        (.ok (got, missing), log)) :
    (repair (oracleEffects o stop) plan maxBatch maxRetries).run [] =
      (.error (.repairFailed missing.length (((missing.mergeSort (· ≤ ·)).filterMap fun p =>
        (plan.failed.find? (·.position == p)).map (·.text)).take exampleCount)), log) := by
  obtain ⟨p, ps, rfl⟩ := List.exists_cons_of_ne_nil hm
  simp only [Nat.reducePow] at h
  simp only [repair, Nat.pow_eq]
  simp [h]
  rfl

/-- A repair's answer, read off how its passes ended: a stop or a failure is passed on, and
otherwise the answer is the `Verdict` of the calls made. -/
theorem run_repair_answer {log : List Call} {r : Option JobError}
    {res : Except JobError (Translations × List Nat)}
    (hsorted : (plan.failed.map (·.position)).Pairwise (· < ·))
    (hrun : (passes (oracleEffects o stop) (chunksOf (max maxBatch 1) plan.items)
      ((maxRetries + 1) % 2 ^ 64) 1 [] (plan.failed.map (·.position))).run [] = (res, log))
    (hcl : Closes (plan.failed.map (·.position)) log r res) :
    let run := (repair (oracleEffects o stop) plan maxBatch maxRetries).run []
    run.2 = log ∧ (∀ err, r = some err → run.1 = .error err) ∧
      (r = none → Verdict plan.failed log run.1) := by
  intro run
  cases r with
  | some err =>
    cases res with
    | ok acc => exact (hcl : False).elim
    | error err' =>
      obtain rfl : err' = err := hcl
      have hend : run = (.error err', log) := run_repair_failure o stop plan maxBatch maxRetries hrun
      refine ⟨by rw [hend], fun e he => ?_, fun h => absurd h (Option.some_ne_none err')⟩
      cases he
      rw [hend]
  | none =>
    cases res with
    | error err' => exact (hcl : False).elim
    | ok acc =>
      obtain ⟨got, missing⟩ := acc
      -- the positions still missing are those of the failed lines no call offered a text
      have hmissing : missing = (unoffered plan.failed log).map (·.position) := by
        rw [map_position_unoffered]
        exact hcl.missing_eq
      refine ⟨?_, fun err h => absurd h (Option.some_ne_none err).symm, fun _ => ?_⟩
      · by_cases hm : missing = []
        · subst hm
          have hend : run = (.ok got, log) := run_repair_recovered o stop plan maxBatch maxRetries hrun
          rw [hend]
        · have hend : run = (_, log) := run_repair_missing o stop plan maxBatch maxRetries hm hrun
          rw [hend]
      · unfold Verdict
        by_cases hu : unoffered plan.failed log = []
        · have hm : missing = [] := by rw [hmissing, hu, List.map_nil]
          subst hm
          have hend : run = (.ok got, log) := run_repair_recovered o stop plan maxBatch maxRetries hrun
          rw [if_pos hu, hend]
          exact ⟨got, rfl, hcl.get?_eq⟩
        · have hm : missing ≠ [] := by simpa [hmissing] using hu
          have hend : run = (_, log) := run_repair_missing o stop plan maxBatch maxRetries hm hrun
          have hsub : (unoffered plan.failed log).Sublist plan.failed := List.filter_sublist
          rw [if_neg hu, hend, hmissing, List.length_map, texts_of_sorted_positions hsorted hsub]

end Answer

end SubtitleQueue.Repair
