import Mathlib
import SubtitleQueue.Proofs.Sql.Change
import SubtitleQueue.Proofs.Sql.Statement

/-!
What a query over one table computes. Its names resolve when its columns, its condition and its
order name only columns of the table (`Resolve.select_table`). A column of a row is read as the
cell the row's frame gives it, and a list of expressions evaluates one by one, so the columns
of a query are read without unfolding the evaluator at each of them.

The engine computes a key for each row it reads and sorts the rows by their keys; whatever the
keys are, sorting only reorders. So a query whose order is by columns of its table gives, in
some order, the rows the same query without an order gives (`run_query_table_sorted`).
-/

namespace SubtitleQueue.Sql

variable {s : Scope}

/-! Evaluation, one constructor at a time. -/

-- Proved through the equations of `eval`, not by `rfl`: as definitional rewrites they would
-- make the kernel unfold the evaluator at every use.
@[simp] theorem eval_lit (v : Value) : eval s (.lit v) = .ok v := by
  rw [eval]
  rfl

@[simp] theorem eval_param (i : Nat) : eval s (.param i) = .ok (s.params[i - 1]?.getD .null) := by
  rw [eval]
  rfl

/-- A column the scope has reads as its value there. -/
theorem eval_column_of {n : String} {off : Nat} {v : Value} {a : Option Affinity}
    (h : s.column? none n = some (v, a)) : eval s (.column none n off) = .ok v := by
  rw [eval, h]
  rfl

/-- A column the scope has reads as its value there; as a rewrite, with its side condition. -/
theorem eval_column_some {n : String} {off : Nat} (h : (s.column? none n).isSome) :
    eval s (.column none n off) = .ok ((s.column? none n).get h).1 := by
  obtain ⟨p, hp⟩ := Option.isSome_iff_exists.mp h
  simp only [hp, Option.get_some]
  exact eval_column_of hp

@[simp] theorem eval_and (a b : Expr) :
    eval s (.binary .and a b) = (do let x ← eval s a; let y ← eval s b; pure (andValue x y)) := by
  rw [eval]

@[simp] theorem eval_eq (a b : Expr) :
    eval s (.binary .eq a b) =
      (do let x ← eval s a; let y ← eval s b; pure (compareWith .eq x y (s.affinity a) (s.affinity b))) := by
  rw [eval]

@[simp] theorem eval_is (a b : Expr) :
    eval s (.binary .is a b) =
      (do let x ← eval s a; let y ← eval s b; pure (truth (isSame x y (s.affinity a) (s.affinity b)))) := by
  rw [eval]

theorem evalList_cons_ok {e : Expr} {es : List Expr} {v : Value} {vs : List Value}
    (he : eval s e = .ok v) (hes : evalList s es = .ok vs) : evalList s (e :: es) = .ok (v :: vs) := by
  rw [evalList, he, hes]
  rfl

/-- Expressions that evaluate one by one evaluate together. -/
theorem evalList_of_forall₂ {es : List Expr} {vs : List Value}
    (h : List.Forall₂ (fun e v => eval s e = .ok v) es vs) : evalList s es = .ok vs := by
  induction h with
  | nil => rfl
  | cons he _ ih => exact evalList_cons_ok he ih

/-! Resolution. -/

/-- Names of different lengths are different names, in any case. -/
theorem sameName_of_length_ne {a b : String} (h : a.length ≠ b.length) : sameName a b = false := by
  rw [sameName, beq_eq_false_iff_ne]
  intro he
  have := congrArg String.length he
  simp only [lowerWord, String.length_map] at this
  exact h this

/-- Expressions that resolve one by one resolve together. -/
theorem Expr.unresolvedList_of_forall {frames : List (String × Array String)} {inTrigger : Bool} :
    ∀ {es : List Expr}, (∀ e ∈ es, e.unresolved frames inTrigger = none) →
      Expr.unresolvedList frames inTrigger es = none
  | [], _ => rfl
  | e :: es, h => by
    rw [Expr.unresolvedList, h e List.mem_cons_self]
    exact Expr.unresolvedList_of_forall fun x hx => h x (List.mem_cons_of_mem _ hx)

/-- A query over one table resolves when its columns, its condition and its order name only
columns of the table. -/
theorem Resolve.select_table {db : Database} {q : Select} {n : String} {a : Nat} {t : Table}
    (cs : List (Expr × String)) (hcols : q.columns = cs.map fun c => ResultColumn.expr c.1 c.2)
    (hs : q.source = some (n, a))
    (hn : (sameName n "sqlite_master" || sameName n "sqlite_schema") = false)
    (ht : db.table? n = some t)
    (hexprs : ∀ c ∈ cs, ∀ rest, c.1.unresolved ((n, t.columnNames) :: rest) false = none)
    (hfilter : ∀ e ∈ q.filter, ∀ rest, e.unresolved ((n, t.columnNames) :: rest) false = none)
    (horder : ∀ o ∈ q.orderBy, ∀ rest, o.1.unresolved ((n, t.columnNames) :: rest) false = none) :
    Resolve.select db [] false q = none := by
  simp only [Resolve.select, hs, Resolve.columnsOf, Resolve.labels.sourceColumns, hn, ht,
    Bool.false_eq_true, if_false, List.singleton_append, List.append_nil, hcols, List.filterMap_map]
  rw [Expr.unresolvedList_of_forall fun e he => ?columns, Option.orElse,
    Option.bind_eq_none_iff.mpr fun e he => hfilter e he _, Option.orElse,
    Expr.unresolvedList_of_forall fun e he => ?order]
  case columns =>
    obtain ⟨c, hc, he⟩ := List.mem_filterMap.mp he
    cases he
    exact hexprs c hc []
  case order =>
    obtain ⟨o, ho, rfl⟩ := List.mem_map.mp (List.mem_filter.mp he).1
    exact horder o ho _

/-! Order. -/

namespace Exec

variable {β γ : Type} {db : Database}

/-- A loop that pushes, for each element, some value related to it, computed without changing the
database, goes on with values related one by one to the elements. -/
theorem run_forIn_push_bind {δ : Type} {P : Except Stop (δ × Database) → Prop} (R : β → γ → Prop)
    {body : β → Array γ → Exec (ForInStep (Array γ))} {k : Array γ → Exec δ} :
    ∀ (xs : List β) (acc : Array γ),
      (∀ x ∈ xs, ∀ acc, ∃ y, R x y ∧ (body x acc).run db = .ok (.yield (acc.push y), db)) →
      (∀ ys, List.Forall₂ R xs ys → P ((k (acc ++ ys.toArray)).run db)) →
      P ((forIn xs acc body >>= k).run db)
  | [], acc, _, hk => by simpa using hk [] .nil
  | x :: xs, acc, hbody, hk => by
    obtain ⟨y, hy, hrun⟩ := hbody x (List.mem_cons_self ..) acc
    rw [List.forIn_cons, bind_assoc, run_bind_of_ok hrun]
    exact run_forIn_push_bind R xs (acc.push y) (fun x hx => hbody x (List.mem_cons_of_mem _ hx))
      fun ys hys => by simpa using hk (y :: ys) (.cons hy hys)

theorem map_snd_of_forall₂ {xs : List β} {ys : List (γ × β)}
    (h : List.Forall₂ (fun x y => y.2 = x) xs ys) : ys.map (·.2) = xs := by
  induction h with
  | nil => rfl
  | cons hxy _ ih => simp [hxy, ih]

/-- A query over one table, with plain columns, no grouping, distinct rows, offset or limit, and
an order by columns of the table: in some order, the values of its columns for each row its
condition holds for. -/
theorem run_query_table_sorted {fuel : Nat} {env : Env} {q : Select} {n : String} {a : Nat} {t : Table}
    (cs : List (Expr × String))
    (hcols : q.columns = cs.map fun c => ResultColumn.expr c.1 c.2)
    (hs : q.source = some (n, a))
    (hn : (sameName n "sqlite_master" || sameName n "sqlite_schema") = false)
    (ht : db.table? n = some t)
    (hagg : (cs.map (·.1)).any Expr.hasAggregate = false)
    (hd : q.distinct = false) (hoff : q.offset = none) (hlim : q.limit = none)
    (hord : ∀ o ∈ q.orderBy, ∃ c off, o.1 = .column none c off ∧
      ∀ e ∈ t.rows.toList, ((env.scope [t.frame n e.1 e.2]).column? none c).isSome)
    (p : Int × Array Value → Bool)
    (hp : ∀ e ∈ t.rows.toList, holds (env.scope [t.frame n e.1 e.2]) q.filter = .ok (p e))
    (g : Int × Array Value → List Value)
    (hg : ∀ e ∈ t.rows.toList, p e = true →
      evalList (env.scope [t.frame n e.1 e.2]) (cs.map (·.1)) = .ok (g e)) :
    ∃ rows, rows.Perm ((t.rows.toList.filter p).map fun e => (g e).toArray) ∧
      (query (fuel + 1) env q).run db = .ok ((cs.map (·.2), rows), db) := by
  unfold query
  rw [run_bind_of_ok rfl]
  simp only [hs, hn, ht, Bool.false_eq_true, if_false]
  rw [run_bind_of_ok rfl]
  rw [List.forIn_map]
  rw [run_bind_of_ok (run_forIn_filter_list _ (fun e => [t.frame n e.1 e.2]) _ p
    fun e he => by rw [hp e he]; rfl)]
  simp only [hcols, List.flatMap_map, ← List.map_eq_flatMap, hagg, hd, hoff, hlim,
    Bool.false_eq_true, if_false]
  rw [← Array.forIn_toList, List.toList_toArray, List.forIn_map]
  rw [run_bind_of_ok (run_forIn_push _
    (fun e => lift (evalList (env.scope [t.frame n e.1 e.2]) (cs.map (·.1))))
    g (fun v e => (v.toArray, [t.frame n e.1 e.2])) fun e he => by
      rw [hg e (List.mem_filter.mp he).1 (List.mem_filter.mp he).2]; rfl)]
  split
  · rw [← Array.forIn_toList, List.toList_toArray]
    refine run_forIn_push_bind (P := fun r => ∃ rows : List (Array Value), rows.Perm _ ∧ r = .ok ((cs.map (·.2), rows), db))
      (fun (x : Array Value × List Frame) (y : List Value × Array Value × List Frame) => y.2 = x)
      _ #[] (fun x hx acc => ?_) (fun ys hys => ?_)
    · -- every sort key is a column of the row, read without failing
      obtain ⟨e, he, rfl⟩ := List.mem_map.mp (by simpa only [List.toList_toArray] using hx)
      refine run_forIn_push_bind (P := fun r => ∃ y : List Value × Array Value × List Frame,
          y.2 = ((g e).toArray, [t.frame n e.1 e.2]) ∧ r = .ok (ForInStep.yield (acc.push y), db))
        (fun _ _ => True) _ #[] (fun o ho ks => ?_) (fun ks _ => ⟨_, rfl, rfl⟩)
      obtain ⟨c, off, hc, hcol⟩ := hord o ho
      obtain ⟨⟨v, af⟩, hv⟩ := Option.isSome_iff_exists.mp (hcol e (List.mem_filter.mp he).1)
      refine ⟨v, trivial, ?_⟩
      rw [hc]
      simp only [hv]
      rfl
    · refine ⟨_, ?_, rfl⟩
      have hsnd := map_snd_of_forall₂ hys
      simp only [show (-1 : Int) < 0 by decide, if_true, Int.toNat_zero, List.drop_zero, List.map_map,
        Array.toList_append, List.nil_append]
      refine ((List.mergeSort_perm _ _).map _).trans (.of_eq ?_)
      simpa [Function.comp_def] using congrArg (List.map (·.1)) hsnd
  · exact ⟨_, .of_eq (by simp [Function.comp_def]), rfl⟩

end Exec

end SubtitleQueue.Sql
