import Mathlib
import SubtitleQueue.Backend.Stack

/-!
# The retry budget

The retry layer calls the backend once, and again after each failure that may pass, at most
`maxRetries` times more, waiting `backoffMs * 2 ^ min (a - 1) 16` milliseconds before retry `a`.
Its effects are parameters, so it runs here against a backend whose answer to each call is
fixed in advance and waits that always run to their end, in a state that counts the calls and
keeps the waits. Over every such script the layer makes one call per leading failure that may
pass, up to the budget, plus one, and answers with the outcome of its last call.
-/

namespace SubtitleQueue.Backend

/-- Whether the retry layer calls again after this outcome: a failure that may pass. -/
def Outcome.retried {α : Type} : Outcome α → Bool
  | some (.error e) => e.isTransient
  | _ => false

/-- What a scripted run of the retry layer leaves: the calls made and the waits, in
milliseconds, in order. -/
structure Trace where
  calls : Nat := 0
  waits : List Nat := []
  deriving DecidableEq, Repr

/-- A backend whose answer to its `n`-th call, counted from `0`, is `script n`. -/
def scripted {α : Type} (script : Nat → Outcome α) : StateM Trace (Outcome α) :=
  modifyGet fun t => (script t.calls, { t with calls := t.calls + 1 })

/-- A wait that runs to its end and is kept in the trace. -/
def waited (ms : Nat) : StateM Trace Bool :=
  modifyGet fun t => (true, { t with waits := t.waits ++ [ms] })

section Scripted

variable {α : Type} (r : Retry) (name op : String) (script : Nat → Outcome α)

/-- The retry layer over a scripted backend, its log left out, with `left` retries allowed. -/
abbrev scriptedRetry (left : Nat) : StateM Trace (Outcome α) :=
  retrying (fun _ _ => pure ()) waited r name op (scripted script) left

theorem scriptedRetry_zero (t : Trace) :
    (scriptedRetry r name op script 0).run t = (script t.calls, { t with calls := t.calls + 1 }) :=
  rfl

/-- One call whose outcome is not retried ends the layer with that outcome. -/
theorem scriptedRetry_settled (left : Nat) (t : Trace) (h : (script t.calls).retried = false) :
    (scriptedRetry r name op script (left + 1)).run t =
      (script t.calls, { t with calls := t.calls + 1 }) := by
  cases hs : script t.calls with
  | none => simp [retrying, scripted, hs]; rfl
  | some x =>
    cases x with
    | ok v => simp [retrying, scripted, hs]; rfl
    | error e =>
      have he : e.isTransient = false := by simpa [Outcome.retried, hs] using h
      simp [retrying, scripted, hs, he]; rfl

/-- A retried outcome costs one wait of `backoff` for the attempt it starts, and one retry. -/
theorem scriptedRetry_retried (left : Nat) (t : Trace) (h : (script t.calls).retried) :
    (scriptedRetry r name op script (left + 1)).run t =
      (scriptedRetry r name op script left).run
        { calls := t.calls + 1, waits := t.waits ++ [r.backoff (r.maxRetries - left)] } := by
  cases hs : script t.calls with
  | none => simp [Outcome.retried, hs] at h
  | some x =>
    cases x with
    | ok v => simp [Outcome.retried, hs] at h
    | error e =>
      have he : e.isTransient = true := by simpa [Outcome.retried, hs] using h
      simp [retrying, scripted, waited, hs, he, scriptedRetry]

/-- The whole run with `left` retries allowed, from any trace: it stops at the first outcome
that is not retried, or when the retries run out; the wait before the retry that leaves `l`
retries is `backoff (maxRetries - l)`. -/
theorem run_scriptedRetry (left : Nat) (t : Trace) :
    ∃ j ≤ left, (∀ i < j, (script (t.calls + i)).retried) ∧
      (j < left → (script (t.calls + j)).retried = false) ∧
      (scriptedRetry r name op script left).run t =
        (script (t.calls + j),
          { calls := t.calls + j + 1,
            waits := t.waits ++ (List.range j).map fun i => r.backoff (r.maxRetries - (left - 1 - i)) }) := by
  -- induction on the retries left, over every trace: each retried call moves the script on
  induction left generalizing t with
  | zero => exact ⟨0, le_rfl, by simp, by simp, by simp [scriptedRetry_zero]⟩
  | succ left ih =>
    cases h : (script t.calls).retried with
    | false =>
      exact ⟨0, by omega, by simp, by simpa using h, by simp [scriptedRetry_settled _ _ _ _ _ _ h]⟩
    | true =>
      obtain ⟨j, hj, hpre, hstop, hrun⟩ :=
        ih { calls := t.calls + 1, waits := t.waits ++ [r.backoff (r.maxRetries - left)] }
      refine ⟨j + 1, by omega, ?_, ?_, ?_⟩
      · intro i hi
        cases i with
        | zero => simpa using h
        | succ i => simpa [Nat.add_assoc, Nat.add_comm 1 i] using hpre i (by omega)
      · intro hlt
        simpa [Nat.add_assoc, Nat.add_comm 1 j] using hstop (by omega)
      · have hwaits : (List.range (j + 1)).map (fun i => r.backoff (r.maxRetries - (left + 1 - 1 - i))) =
            r.backoff (r.maxRetries - left) ::
              (List.range j).map fun i => r.backoff (r.maxRetries - (left - 1 - i)) := by
          rw [List.range_succ_eq_map, List.map_cons, List.map_map]
          congr 2
          funext i
          simp only [Function.comp_apply]
          congr 2
          omega
        rw [scriptedRetry_retried _ _ _ _ _ _ h, hrun, hwaits]
        simp [Nat.add_assoc, Nat.add_comm 1 j]

end Scripted

/-- Two refused connections, then an answer: three calls, waits of 100 and 200 ms. -/
example : (retrying (fun _ _ => pure ()) waited { maxRetries := 3, backoffMs := 100 } "mock" "translate"
    (scripted fun n => if n < 2 then some (.error (.connection "down")) else some (.ok "[fr] Hello"))
    3).run {} = (some (.ok "[fr] Hello"), { calls := 3, waits := [100, 200] }) :=
  rfl

end SubtitleQueue.Backend
