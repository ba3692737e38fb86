import Mathlib
import SubtitleQueue.Proofs.Sql.Equality
import SubtitleQueue.Proofs.Sql.Frame
import SubtitleQueue.Proofs.Sql.Tables
import SubtitleQueue.Proofs.Sql.Values

/-!
Running one statement that reads or changes rows on a connection. Its names are resolved
first, and a statement that does not resolve fails and leaves the connection as it was. A
statement that resolves runs as one step of the engine; the connection keeps the database the
step ends on, or the one it started from when the step fails without keeping its work.

So a relation between databases that every run of the step keeps is kept by running the
statement (`run_within`), a query leaves the connection as it was (`run_select`), and a
resolved statement whose step succeeds gives its outcome and its database (`run_of_exec`).
-/

namespace SubtitleQueue.Sql

/-- The engine's step for a statement that reads or changes rows. -/
def RowStmt.exec (st : RowStmt) (env : Env) : Exec Outcome :=
  match st with
  | .select q => do
    let (columns, rows) ← Exec.query Connection.depth env q
    pure { columns, rows }
  | .insert res n cols rows up => do
    pure { changes := ← Exec.insert Connection.depth env res n cols rows up }
  | .update res n sets filter => do
    pure { changes := ← Exec.update Connection.depth env res n sets filter }
  | .delete n filter => do
    pure { changes := ← Exec.delete Connection.depth env n filter }

namespace Connection

variable (c : Connection) (params : Array Value) (now : Nat)

theorem step_rowStmt (st : RowStmt) :
    c.step st.toStmt params now = match Resolve.statement c.db [] false st.toStmt with
      | some e => (c, .error e)
      | none => c.change (st.exec { params, now }) := by
  cases st <;> rfl

theorem run_of_prepareRows {text : String} {st : RowStmt} {n : Nat}
    (hp : prepareRows text = some (some st, n)) :
    c.run text params now = match c.step st.toStmt params now with
      | (c', .ok o) => (c', .ok o)
      | (c', .error e) => (c', .error { error := e, statement := text }) := by
  unfold Connection.run Connection.first
  rw [prepare_eq_of_prepareRows hp]
  dsimp only
  cases c.step st.toStmt params now with
  | mk c' r => cases r <;> rfl

/-- Running a statement keeps every relation that its step keeps, and changes nothing of the
connection but its database. -/
theorem run_within {R : Database → Database → Prop} [IsPreorder Database R] {text : String}
    {st : RowStmt} {n : Nat} (hp : prepareRows text = some (some st, n))
    (hw : Exec.Within R (st.exec { params, now })) :
    ∃ d, (c.run text params now).1 = { c with db := d } ∧ R c.db d := by
  rw [run_of_prepareRows c params now hp, step_rowStmt]
  cases Resolve.statement c.db [] false st.toStmt with
  | some e => exact ⟨c.db, rfl, refl_of R _⟩
  | none =>
    have h := hw.always c.db
    unfold Exec.WithinAt at h
    unfold change
    cases hx : (st.exec { params, now }).run c.db with
    | ok p =>
      simp only [hx, Exec.after] at h ⊢
      exact ⟨p.2, rfl, h⟩
    | error s =>
      simp only [hx, Exec.after] at h ⊢
      cases s with
      | fault e keep d =>
        cases keep
        · exact ⟨c.db, rfl, refl_of R _⟩
        · exact ⟨d, rfl, h⟩
      | ignore d => exact ⟨d, rfl, h⟩

theorem run_of_exec {text : String} {st : RowStmt} {n : Nat}
    (hp : prepareRows text = some (some st, n))
    (hr : Resolve.statement c.db [] false st.toStmt = none) {o : Outcome} {d : Database}
    (hx : (st.exec { params, now }).run c.db = .ok (o, d)) :
    c.run text params now = ({ c with db := d }, .ok o) := by
  rw [run_of_prepareRows c params now hp, step_rowStmt, hr]
  simp only [change, hx]

/-- A statement whose step succeeds either resolves and ends with the step's outcome and
database, or fails to resolve and leaves the connection as it was. -/
theorem run_of_exec_cases {text : String} {st : RowStmt} {n : Nat}
    (hp : prepareRows text = some (some st, n)) {o : Outcome} {d : Database}
    (hx : (st.exec { params, now }).run c.db = .ok (o, d)) :
    c.run text params now = ({ c with db := d }, .ok o) ∨
      ∃ e, c.run text params now = (c, .error { error := e, statement := text }) := by
  cases hr : Resolve.statement c.db [] false st.toStmt with
  | none => exact Or.inl (run_of_exec c params now hp hr hx)
  | some e =>
    refine Or.inr ⟨e, ?_⟩
    rw [run_of_prepareRows c params now hp, step_rowStmt, hr]

/-- A query leaves the connection as it was. -/
theorem run_select {text : String} {q : Select} {n : Nat}
    (hp : prepareRows text = some (some (.select q), n)) : (c.run text params now).1 = c := by
  have hw : Exec.Within (fun a b : Database => a = b) ((RowStmt.select q).exec { params, now }) :=
    Exec.Within.bind (Exec.query_within _ _ _) fun _ => Exec.Within.pure _
  obtain ⟨d, h, rfl⟩ := run_within c params now hp hw
  exact h

end Connection

/-- A column found in one of the frames resolves. -/
theorem Expr.unresolved_column {frames : List (String × Array String)} {n : String}
    (h : ∃ f ∈ frames, n ∈ f.2) (inTrigger : Bool) (off : Nat) :
    (Expr.column none n off).unresolved frames inTrigger = none := by
  obtain ⟨f, hf, hn⟩ := h
  have found : frames.any (fun x => x.2.any (sameName · n) || rowidNames.contains (lowerWord n)) :=
    List.any_eq_true.mpr ⟨f, hf, by
      rw [Bool.or_eq_true]
      exact Or.inl (Array.any_eq_true'.mpr ⟨n, hn, sameName_self n⟩)⟩
  simp only [Expr.unresolved, found, if_true]

/-- A column of the first frame resolves. -/
theorem Expr.unresolved_column_head {f : String} {cs : Array String}
    {rest : List (String × Array String)} {n : String} (hn : n ∈ cs) (inTrigger : Bool) (off : Nat) :
    (Expr.column none n off).unresolved ((f, cs) :: rest) inTrigger = none :=
  Expr.unresolved_column ⟨(f, cs), List.mem_cons_self, hn⟩ inTrigger off

@[simp] theorem Expr.unresolved_binary (frames : List (String × Array String)) (inTrigger : Bool)
    (op : BinOp) (x y : Expr) : (Expr.binary op x y).unresolved frames inTrigger =
      (x.unresolved frames inTrigger).orElse fun _ => y.unresolved frames inTrigger := by
  simp [Expr.unresolved]

@[simp] theorem Expr.unresolved_param (frames : List (String × Array String)) (inTrigger : Bool)
    (i : Nat) : (Expr.param i).unresolved frames inTrigger = none := by
  simp [Expr.unresolved]

@[simp] theorem Expr.unresolved_lit (frames : List (String × Array String)) (inTrigger : Bool)
    (v : Value) : (Expr.lit v).unresolved frames inTrigger = none := by
  simp [Expr.unresolved]

/-! Conditions read as truths. -/

theorem ne_null_of_isTrue {v : Value} (h : v.isTrue = true) : v ≠ .null := by
  rintro rfl
  simp at h

/-- A conjunction holds exactly when both sides hold; a null side does not hold. -/
@[simp] theorem isTrue_andValue (a b : Value) : (andValue a b).isTrue = (a.isTrue && b.isTrue) := by
  unfold andValue
  cases ha : a.isTrue <;> cases hb : b.isTrue
  · by_cases hna : a = .null
    · subst hna
      by_cases hnb : b = .null
      · subst hnb; rfl
      · simp [hnb, hb]
    · simp [hna, ha]
  · by_cases hna : a = .null
    · subst hna; simp [hb]
    · simp [hna, ha]
  · by_cases hnb : b = .null
    · subst hnb; simp [ha]
    · simp [hnb, hb]
  · simp [ne_null_of_isTrue ha, ne_null_of_isTrue hb, ha, hb]

end SubtitleQueue.Sql
