import SubtitleQueue.Sql.Connection

/-!
Running statements, read step by step. A statement's run is a sequence of loops over rows and
columns; each loop here is read through one rule: when every turn of its body succeeds and goes
on, the loop ends with what the turns built. Triggers play no part on a database without any,
and a statement that reads its text, resolves its names and then runs leaves the connection
holding what the run left.
-/

namespace SubtitleQueue.Sql

@[simp] theorem except_ok_bind {ε α β : Type} (a : α) (f : α → Except ε β) :
    (Except.ok a >>= f) = f a := rfl

namespace Exec

variable {α β γ : Type} {db : Database}

theorem run_bind_of_ok {x : Exec α} {f : α → Exec β} {a : α} {db' : Database}
    (h : x.run db = .ok (a, db')) : (x >>= f).run db = (f a).run db' := by
  simp only [StateT.run_bind, h]
  rfl

@[simp] theorem run_lift_ok (a : α) : (Exec.lift (.ok a)).run db = .ok (a, db) := rfl

theorem run_table {n : String} {t : Table} (h : db.table? n = some t) :
    (Exec.table n).run db = .ok (t, db) := by
  simp only [Exec.table, StateT.run_bind, StateT.run_get, pure_bind, h]
  rfl

/-- The loop rule: a loop whose turns all go on, each taking what the turns before it built
(`acc` of the rows done) to what they build with one more row, ends with what all the turns
build. -/
theorem run_forIn_list (xs : List β) (body : β → γ → Exec (ForInStep γ))
    (acc : List β → γ) (state : List β → Database)
    (step : ∀ pre x rest, xs = pre ++ x :: rest →
      (body x (acc pre)).run (state pre) = .ok (.yield (acc (pre ++ [x])), state (pre ++ [x]))) :
    (forIn xs (acc []) body).run (state []) = .ok (acc xs, state xs) := by
  induction xs generalizing acc state with
  | nil => rfl
  | cons x xs ih =>
    have h0 := step [] x xs rfl
    simp only [List.nil_append] at h0
    rw [List.forIn_cons, run_bind_of_ok h0]
    exact ih (fun l => acc (x :: l)) (fun l => state (x :: l))
      (fun pre y rest h => step (x :: pre) y rest (by rw [h]; rfl))

/-- The loop rule, for a loop started from what `acc` gives for no rows done. -/
theorem run_forIn_list_from (xs : List β) (body : β → γ → Exec (ForInStep γ))
    (acc : List β → γ) (state : List β → Database) {init : γ} (hinit : init = acc [])
    (hdb : db = state [])
    (step : ∀ pre x rest, xs = pre ++ x :: rest →
      (body x (acc pre)).run (state pre) = .ok (.yield (acc (pre ++ [x])), state (pre ++ [x]))) :
    (forIn xs init body).run db = .ok (acc xs, state xs) := by
  subst hinit hdb
  exact run_forIn_list xs body acc state step

theorem run_forIn_array (xs : Array β) (body : β → γ → Exec (ForInStep γ))
    (acc : List β → γ) (state : List β → Database)
    (step : ∀ pre x rest, xs.toList = pre ++ x :: rest →
      (body x (acc pre)).run (state pre) = .ok (.yield (acc (pre ++ [x])), state (pre ++ [x]))) :
    (forIn xs (acc []) body).run (state []) = .ok (acc xs.toList, state xs.toList) := by
  rw [← Array.forIn_toList]
  exact run_forIn_list xs.toList body acc state step

/-- A loop whose every turn goes on with what it was given ends with it, the database as it was. -/
theorem run_forIn_yield_self (xs : List β) (b : γ) (body : β → γ → Exec (ForInStep γ))
    (h : ∀ x ∈ xs, (body x b).run db = .ok (.yield b, db)) :
    (forIn xs b body).run db = .ok (b, db) := by
  induction xs with
  | nil => rfl
  | cons x xs ih =>
    rw [List.forIn_cons, run_bind_of_ok (h x (by simp))]
    exact ih fun y hy => h y (by simp [hy])

theorem run_forIn_array_yield_self (xs : Array β) (b : γ) (body : β → γ → Exec (ForInStep γ))
    (h : ∀ x ∈ xs, (body x b).run db = .ok (.yield b, db)) :
    (forIn xs b body).run db = .ok (b, db) := by
  rw [← Array.forIn_toList]
  exact run_forIn_yield_self _ _ _ fun x hx => h x (by simpa using hx)

/-- Selecting rows: a loop that keeps the rows a test holds for, testing without changing the
database, ends with the kept rows. -/
theorem run_forIn_filter_list (xs : List β) (key : β → γ) (test : β → Exec Bool) (p : β → Bool)
    (h : ∀ x ∈ xs, (test x).run db = .ok (p x, db)) :
    (forIn xs #[] fun x acc => do
        let b ← test x
        if b = true then pure (ForInStep.yield (acc.push (key x))) else pure (ForInStep.yield acc)).run
      db = .ok (((xs.filter p).map key).toArray, db) := by
  have := run_forIn_list xs (fun x acc => do
        let b ← test x
        if b = true then pure (ForInStep.yield (acc.push (key x))) else pure (ForInStep.yield acc))
    (fun l => ((l.filter p).map key).toArray) (fun _ => db) (by
      intro pre x rest hx
      have hmem : x ∈ xs := by rw [hx]; simp
      rw [run_bind_of_ok (h x hmem)]
      cases hp : p x <;> simp [hp] <;> rfl)
  simpa using this

theorem run_forIn_filter (xs : Array β) (key : β → γ) (test : β → Exec Bool) (p : β → Bool)
    (h : ∀ x ∈ xs, (test x).run db = .ok (p x, db)) :
    (forIn xs #[] fun x acc => do
        let b ← test x
        if b = true then pure (ForInStep.yield (acc.push (key x))) else pure (ForInStep.yield acc)).run
      db = .ok (((xs.toList.filter p).map key).toArray, db) := by
  rw [← Array.forIn_toList]
  exact run_forIn_filter_list xs.toList key test p fun x hx => h x (by simpa using hx)

/-- Reading out: a loop that pushes, for each element, a value computed without changing the
database, ends with those values in order. -/
theorem run_forIn_push (xs : List β) (f : β → Exec γ) (g : β → γ) {δ : Type} (k : γ → β → δ)
    (h : ∀ x ∈ xs, (f x).run db = .ok (g x, db)) :
    (forIn xs #[] fun x acc => do
        let v ← f x
        pure (ForInStep.yield (acc.push (k v x)))).run db =
      .ok ((xs.map fun x => k (g x) x).toArray, db) := by
  have := run_forIn_list xs (fun x acc => do
        let v ← f x
        pure (ForInStep.yield (acc.push (k v x))))
    (fun l => (l.map fun x => k (g x) x).toArray) (fun _ => db) (by
      intro pre x rest hx
      have hmem : x ∈ xs := by rw [hx]; simp
      rw [run_bind_of_ok (h x hmem)]
      simp; rfl)
  simpa using this

/-- Without triggers a change runs none. -/
theorem run_runTriggers_of_nil (h : db.triggers = []) (fuel : Nat) (env : Env) (n : String)
    (timing : Timing) (event : Event) (old new : Option (Int × Array Value)) :
    (runTriggers (fuel + 1) env n timing event old new).run db = .ok (false, db) := by
  simp only [runTriggers, StateT.run_bind, StateT.run_get, pure_bind, h, List.filter_nil,
    List.reverse_nil]
  cases db.table? n <;> rfl

end Exec

end SubtitleQueue.Sql
