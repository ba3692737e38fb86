import SubtitleQueue.Proofs.Sql.Frame

/-!
Statements run to the end. On a database without triggers, a row that breaks no constraint
and clashes with no key is written: an update puts the values its assignments give in the old
row's place, an insert puts its row under an id past every id of the table. A query over one
table gives, for each row its condition holds for in the table's order, the values of its
columns, up to its limit.

The values a statement computes are named by two functions: the row an update's assignments
make of a row, and the value a new row takes in each column.
-/

namespace SubtitleQueue.Sql

namespace Table

/-- The row an update's assignments make of a row: each assignment to a column of the table
sets it to the value of its expression in `scope`, converted to the column's affinity. -/
def assign (t : Table) (scope : Scope) :
    Array Value → List (String × Expr) → Except Interrupt (Array Value)
  | row, [] => .ok row
  | row, (c, e) :: rest =>
    match t.columnIndex? c with
    | some i => do
      let v ← eval scope e
      assign t scope (row.set! i (v.withAffinity t.columns[i]!.affinity)) rest
    | none => assign t scope row rest

/-- The value a new row takes in a column: the value given for it, else the column's default
evaluated in `scope`, else null; converted to the column's affinity. -/
def initial (targets : List Nat) (given : List Value) (scope : Scope) (x : Column × Nat) :
    Except Interrupt Value :=
  match targets.findIdx? (· == x.2) with
  | some j => .ok ((given[j]?.getD .null).withAffinity x.1.affinity)
  | none =>
    match x.1.initial with
    | some e => (eval scope e).map (·.withAffinity x.1.affinity)
    | none => .ok (Value.null.withAffinity x.1.affinity)

end Table

namespace Exec

variable {db : Database}

/-! The loops that compute values. Each is stated for the loop's body given as an equation,
which a use proves by cases once the body has been matched. -/

theorem run_forIn_assign (t : Table) (scope : Scope) (sets : List (String × Expr))
    (body : String × Expr → Array Value → Exec (ForInStep (Array Value)))
    (hbody : body = fun x acc => match t.columnIndex? x.fst with
      | some i => do
        let v ← lift (eval scope x.snd)
        pure (ForInStep.yield (acc.set! i (Value.withAffinity t.columns[i]!.affinity v)))
      | none => pure (ForInStep.yield acc))
    (row row' : Array Value) (h : t.assign scope row sets = .ok row') :
    (forIn sets row body).run db = .ok (row', db) := by
  subst hbody
  induction sets generalizing row with
  | nil =>
    simp only [Table.assign, Except.ok.injEq] at h
    subst h
    rfl
  | cons x rest ih =>
    obtain ⟨c, e⟩ := x
    rw [List.forIn_cons]
    cases hc : t.columnIndex? c with
    | none =>
      simp only [Table.assign, hc] at h
      rw [run_bind_of_ok rfl]
      exact ih _ h
    | some i =>
      simp only [Table.assign, hc] at h
      cases hv : eval scope e with
      | error err =>
        simp only [hv] at h
        exact absurd h (by intro h'; cases h')
      | ok v =>
        simp only [hv, except_ok_bind] at h
        rw [run_bind_of_ok (by simp only; rfl)]
        exact ih _ h

theorem run_forIn_initial (targets : List Nat) (given : List Value) (scope : Scope)
    (body : Column × Nat → Array Value → Exec (ForInStep (Array Value)))
    (hbody : body = fun x acc =>
      match targets.findIdx? (· == x.snd) with
      | some j => pure (ForInStep.yield (acc.push ((given[j]?.getD .null).withAffinity x.fst.affinity)))
      | none =>
        match x.fst.initial with
        | some e => do
          let d ← lift (eval scope e)
          pure (ForInStep.yield (acc.push (d.withAffinity x.fst.affinity)))
        | none => do
          let d ← pure Value.null
          pure (ForInStep.yield (acc.push (d.withAffinity x.fst.affinity))))
    (xs : List (Column × Nat)) (acc : Array Value) (vs : List Value)
    (h : xs.mapM (Table.initial targets given scope) = .ok vs) :
    (forIn xs acc body).run db = .ok (acc ++ vs.toArray, db) := by
  subst hbody
  induction xs generalizing acc vs with
  | nil =>
    simp only [List.mapM_nil, pure, Except.pure, Except.ok.injEq] at h
    subst h
    simp only [List.forIn_nil]
    simp
    rfl
  | cons x xs ih =>
    rw [List.mapM_cons] at h
    cases hx : Table.initial targets given scope x with
    | error e => rw [hx] at h; cases h
    | ok v =>
      cases hxs : xs.mapM (Table.initial targets given scope) with
      | error e => rw [hx, hxs] at h; cases h
      | ok ws =>
        simp only [hx, hxs, except_ok_bind, pure, Except.pure, Except.ok.injEq] at h
        subst h
        rw [List.forIn_cons]
        -- the value of the one column, as `Table.initial` gives it
        have hstep : ((match targets.findIdx? (· == x.snd) with
            | some j => pure (ForInStep.yield (acc.push ((given[j]?.getD .null).withAffinity x.fst.affinity)))
            | none =>
              match x.fst.initial with
              | some e => do
                let d ← lift (eval scope e)
                pure (ForInStep.yield (acc.push (d.withAffinity x.fst.affinity)))
              | none => do
                let d ← pure Value.null
                pure (ForInStep.yield (acc.push (d.withAffinity x.fst.affinity)))) : Exec _).run db =
            .ok (.yield (acc.push v), db) := by
          unfold Table.initial at hx
          split at hx
          · simp only [Except.ok.injEq] at hx
            subst hx
            rfl
          · split at hx
            · cases he : eval scope _ with
              | error e => rw [he] at hx; cases hx
              | ok d =>
                simp only [he, Except.map, Except.ok.injEq] at hx
                subst hx
                rfl
            · simp only [Except.ok.injEq] at hx
              subst hx
              rfl
        rw [run_bind_of_ok hstep]
        simpa using ih (acc.push v) ws hxs

/-! Steps of a change that cannot fail. -/

/-- A fresh row id is past every row id of the table. -/
theorem freshRowid_gt (t : Table) :
    ∃ r, (freshRowid t).run db = .ok (r, db) ∧ ∀ e ∈ t.rows.toList, e.1 < r := by
  refine ⟨_, rfl, fun e he => ?_⟩
  have := Table.le_maxRowid he
  omega

/-- Recording a row id succeeds, and replaces at most the table of counters. -/
theorem noteRowid_ok (t : Table) (r : Int) :
    ∃ d, (noteRowid t r).run db = .ok ((), d) ∧ d.triggers = db.triggers := by
  unfold noteRowid
  by_cases ha : t.autoincrement = true
  · simp only [ha, Bool.not_true, Bool.false_eq_true, if_false, StateT.run_bind, StateT.run_get,
      pure_bind]
    repeat' split
    all_goals exact ⟨_, rfl, rfl⟩
  · simp only [ha, Bool.not_false, if_true]
    exact ⟨db, rfl, rfl⟩

theorem run_checkParents_of_nil {t : Table} (h : t.foreignKeys = []) (r : Int)
    (vals : Array Value) : (checkParents t r vals).run db = .ok ((), db) := by
  unfold checkParents
  simp only [h, StateT.run_bind, StateT.run_get, pure_bind, List.forIn_nil]
  split <;> rfl

/-! Writing one row. -/

/-- A row written over an old one, on a database without triggers, by a table with its row id
in its first column and neither checks nor foreign keys: when the new row keeps the id, fills
every column that may not be null, and clashes with no other row on a unique index, it takes
the old row's place. The fuel counts the update, the row and the triggers it would run. -/
theorem run_updateRow {fuel : Nat} {env : Env} {res : Resolution} {tname : String} {r : Int}
    {old new : Array Value} {cols : List String} {t : Table}
    (ht : db.table? tname = some t) (htr : db.triggers = []) (hk : t.rowidColumn = some 0)
    (hnew : new[0]?.getD .null = .int r)
    (hnn : ∀ x ∈ t.columns.toList.zipIdx, (x.1.notNull && new[x.2]?.getD .null == .null) = false)
    (hchecks : t.checks = []) (hfk : t.foreignKeys = [])
    (hclash : ∀ ix ∈ db.indexesOf tname,
      (conflicts env (t.removeRow r) ix r new).run db = .ok ([], db)) :
    (updateRow (fuel + 2) env res tname r old new cols).run db =
      .ok (1, db.setTable ((t.removeRow r).putRow r new)) := by
  unfold updateRow
  rw [run_bind_of_ok (run_table ht)]
  simp only [hk, hnew, pure_bind]
  rw [run_bind_of_ok (run_runTriggers_of_nil htr _ _ _ _ _ _ _)]
  simp only [Bool.false_eq_true, if_false]
  rw [run_bind_of_ok (run_forIn_yield_self _ _ _ fun x hx => by
    simp only [hnn x hx, Bool.false_eq_true, if_false]; rfl)]
  simp only [hchecks, List.forIn_nil, pure_bind]
  rw [run_bind_of_ok rfl]
  simp only [bne_self_eq_false, Bool.false_and, Bool.false_eq_true, if_false]
  rw [run_bind_of_ok (run_forIn_yield_self _ _ _ fun ix hix => by
    rw [run_bind_of_ok (hclash ix hix)]; rfl)]
  rw [run_bind_of_ok (run_forIn_array_yield_self _ _ _ fun x hx => by simp at hx)]
  simp only [hfk, List.any_nil, Bool.false_eq_true, if_false]
  rw [run_bind_of_ok (run_table ht)]
  rw [run_bind_of_ok rfl]
  rw [run_bind_of_ok (run_runTriggers_of_nil (by simpa using htr) _ _ _ _ _ _ _)]
  rfl

/-- A new row, on a database without triggers, into a table with its row id in its first
column and neither checks nor foreign keys: when the values given leave the id to be chosen,
fill every column that may not be null, and clash with no row on a unique index, the row is
written under a fresh id past every row of the table, and the id is recorded. -/
theorem run_insertRow {fuel : Nat} {env : Env} {res : Resolution} {tname : String}
    {targets : List Nat} {given : List Value} {t : Table} {vals : List Value}
    (ht : db.table? tname = some t) (htr : db.triggers = []) (hk : t.rowidColumn = some 0)
    (hfill : t.columns.toList.zipIdx.mapM (Table.initial targets given (env.scope [])) = .ok vals)
    (hnull : vals.toArray[0]?.getD .null = .null)
    (hnn : ∀ r, ∀ x ∈ t.columns.toList.zipIdx,
      (x.1.notNull && (vals.toArray.set! 0 (.int r))[x.2]?.getD .null == .null) = false)
    (hchecks : t.checks = []) (hfk : t.foreignKeys = [])
    (hclash : ∀ r, (∀ e ∈ t.rows.toList, e.1 < r) → ∀ ix ∈ db.indexesOf tname,
      (conflicts env t ix r (vals.toArray.set! 0 (.int r))).run db = .ok ([], db)) :
    ∃ r d, (∀ e ∈ t.rows.toList, e.1 < r) ∧
      (insertRow (fuel + 2) env res tname targets given none).run db = .ok (1, d) ∧
      (noteRowid t r).run { db.setTable (t.putRow r (vals.toArray.set! 0 (.int r))) with
        lastRowid := if env.inTrigger then db.lastRowid else r } = .ok ((), d) := by
  obtain ⟨r, hr, hgt⟩ := @freshRowid_gt db t
  refine ⟨r, ?_⟩
  unfold insertRow
  rw [run_bind_of_ok (run_table ht)]
  rw [run_bind_of_ok (run_forIn_initial _ _ _ _ ?body _ _ _ hfill)]
  case body =>
    funext x acc
    obtain ⟨c, i⟩ := x
    cases hj : targets.findIdx? (· == i) <;> cases he : c.initial <;> simp only [hj, he]
  simp only [hk, Array.empty_append, hnull]
  obtain ⟨d, hd, hdtr⟩ := @noteRowid_ok { db.setTable (t.putRow r (vals.toArray.set! 0 (.int r)))
    with lastRowid := if env.inTrigger then db.lastRowid else r } t r
  refine ⟨d, hgt, ?_, hd⟩
  rw [run_bind_of_ok hr]
  rw [run_bind_of_ok (run_runTriggers_of_nil htr _ _ _ _ _ _ _)]
  simp only [Bool.false_eq_true, if_false]
  rw [run_bind_of_ok (run_forIn_yield_self _ _ _ fun x hx => by
    simp only [hnn r x hx, Bool.false_eq_true, if_false]; rfl)]
  simp only [hchecks, List.forIn_nil, pure_bind]
  rw [run_bind_of_ok rfl]
  simp only [Table.row?_eq_none_of_lt hgt, Option.isSome_none, Bool.false_eq_true, if_false]
  rw [run_bind_of_ok (run_forIn_yield_self _ _ _ fun ix hix => by
    rw [run_bind_of_ok (hclash r hgt ix hix)]; rfl)]
  rw [run_bind_of_ok (run_forIn_array_yield_self _ _ _ fun x hx => by simp at hx)]
  rw [run_bind_of_ok (run_checkParents_of_nil hfk _ _)]
  rw [run_bind_of_ok (run_table ht)]
  rw [run_bind_of_ok rfl]
  rw [run_bind_of_ok hd]
  rw [run_bind_of_ok (run_runTriggers_of_nil (by rw [hdtr]; exact htr) _ _ _ _ _ _ _)]
  rfl

/-- An insert of one row of values is the insert of that row. -/
theorem run_insert_values {fuel : Nat} {env : Env} {res : Resolution} {tname : String}
    {cols : List String} {row : List Expr} {t : Table} {given : List Value} {d : Database}
    (ht : db.table? tname = some t) (hrow : evalList (env.scope []) row = .ok given)
    (hins : (insertRow fuel env res tname (cols.filterMap t.columnIndex?) given none).run db =
      .ok (1, d)) :
    (insert (fuel + 1) env res tname (some cols) (.values [row]) none).run db = .ok (1, d) := by
  unfold insert
  rw [run_bind_of_ok (run_table ht)]
  dsimp only
  rw [run_bind_of_ok (by simp only [List.mapM_cons, List.mapM_nil, hrow]; rfl)]
  simp only [List.forIn_cons, List.forIn_nil, bind_assoc]
  rw [run_bind_of_ok hins]
  rfl

/-! Reading rows. -/

/-- A query over one table, with plain columns, no grouping, distinct rows, order or offset:
the values of its columns for each row its condition holds for, in the table's order, up to
its limit. -/
theorem run_query_table {fuel : Nat} {env : Env} {q : Select} {n : String} {a : Nat} {t : Table}
    (cs : List (Expr × String))
    (hcols : q.columns = cs.map fun c => ResultColumn.expr c.1 c.2)
    (hs : q.source = some (n, a))
    (hn : (sameName n "sqlite_master" || sameName n "sqlite_schema") = false)
    (ht : db.table? n = some t)
    (hagg : (cs.map (·.1)).any Expr.hasAggregate = false)
    (hd : q.distinct = false) (ho : q.orderBy = []) (hoff : q.offset = none)
    (p : Int × Array Value → Bool)
    (hp : ∀ e ∈ t.rows.toList, holds (env.scope [t.frame n e.1 e.2]) q.filter = .ok (p e))
    (g : Int × Array Value → List Value)
    (hg : ∀ e ∈ t.rows.toList, p e = true →
      evalList (env.scope [t.frame n e.1 e.2]) (cs.map (·.1)) = .ok (g e))
    (lim : Int) (hlim : match q.limit with
      | none => lim = -1
      | some x => eval (env.scope []) x = .ok (.int lim)) :
    (query (fuel + 1) env q).run db =
      .ok ((cs.map (·.2), let rows := (t.rows.toList.filter p).map fun e => (g e).toArray
        if lim < 0 then rows else rows.take lim.toNat), db) := by
  unfold query
  rw [run_bind_of_ok rfl]
  simp only [hs, hn, ht, Bool.false_eq_true, if_false]
  rw [run_bind_of_ok rfl]
  rw [List.forIn_map]
  rw [run_bind_of_ok (run_forIn_filter_list _ (fun e => [t.frame n e.1 e.2]) _ p
    fun e he => by rw [hp e he]; rfl)]
  simp only [hcols, List.flatMap_map, ← List.map_eq_flatMap, hagg, hd, ho, hoff,
    Bool.false_eq_true, if_false, List.isEmpty_nil, Bool.not_true]
  rw [← Array.forIn_toList, List.toList_toArray, List.forIn_map]
  rw [run_bind_of_ok (run_forIn_push _
    (fun e => lift (evalList (env.scope [t.frame n e.1 e.2]) (cs.map (·.1))))
    g (fun v e => (v.toArray, [t.frame n e.1 e.2])) fun e he => by
      rw [hg e (List.mem_filter.mp he).1 (List.mem_filter.mp he).2]; rfl)]
  rw [run_bind_of_ok rfl]
  cases hq : q.limit with
  | none =>
    simp only [hq] at hlim
    subst hlim
    simp [List.map_map]
    rfl
  | some x =>
    simp only [hq] at hlim
    simp only
    rw [run_bind_of_ok (by rw [hlim]; rfl)]
    simp [List.map_map]
    rfl

end Exec

end SubtitleQueue.Sql
