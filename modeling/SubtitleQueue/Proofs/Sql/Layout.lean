import Mathlib
import SubtitleQueue.Proofs.Sql.Change
import SubtitleQueue.Proofs.Sql.Frame

/-!
Tables that hold records. A layout says how a record is stored: under its id, as its cells.
A table holds a list of records when its rows are their entries in increasing order of id.
Writing a record back under its id, appending one under an id past every other, and dropping
ids keep a table holding the changed list.

On a database without triggers, an update of such a table changes, one after another in the
table's order, the records its condition holds for, when no record it writes breaks a
constraint; an insert appends its new record under a fresh id.
-/

namespace SubtitleQueue.Sql

/-- How records are stored as rows of a table: each under its id, as its cells. -/
structure Layout (α : Type) where
  id : α → Int
  cells : α → Array Value

/-- The table without the rows of some ids. -/
def Table.without (t : Table) (ids : List Int) : Table :=
  { t with rows := t.rows.filter fun e => !ids.contains e.1 }

theorem Table.without_without (t : Table) (ids ids' : List Int) :
    (t.without ids).without ids' = t.without (ids ++ ids') := by
  simp only [Table.without, Array.filter_filter, Table.mk.injEq, and_true, true_and]
  congr 1
  funext e
  simp [Bool.and_comm]

theorem Table.without_nil (t : Table) : t.without [] = t := by
  cases t
  simp [Table.without]

theorem Table.removeRow_eq_without (t : Table) (r : Int) : t.removeRow r = t.without [r] := by
  simp only [Table.removeRow, Table.without, List.contains_cons, List.contains_nil, Bool.or_false]
  rfl

theorem Database.table?_congr {db : Database} {a b : String} (h : sameName a b = true) :
    db.table? a = db.table? b := by
  unfold Database.table?
  congr 1
  funext u
  exact sameName_congr_right h

namespace Layout

variable {α : Type} (L : Layout α)

/-- A record as a row. -/
def entry (x : α) : Int × Array Value := (L.id x, L.cells x)

/-- The table `t` holding the records `xs`. -/
def store (t : Table) (xs : List α) : Table := { t with rows := (xs.map L.entry).toArray }

@[simp] theorem store_name (t : Table) (xs : List α) : (L.store t xs).name = t.name := rfl

@[simp] theorem store_columns (t : Table) (xs : List α) : (L.store t xs).columns = t.columns := rfl

@[simp] theorem store_foreignKeys (t : Table) (xs : List α) :
    (L.store t xs).foreignKeys = t.foreignKeys := rfl

theorem store_store (t : Table) (xs ys : List α) : L.store (L.store t xs) ys = L.store t ys := rfl

/-- A table made from `t` by changing its rows holds the records its rows are. -/
theorem eq_store_of_rows {t u : Table} {xs : List α} (hu : u = { t with rows := u.rows })
    (h : u.rows.toList = xs.map L.entry) : u = L.store t xs := by
  rw [hu]
  unfold store
  congr 1
  exact Array.toList_inj.mp (by simpa using h)

/-- The frame of a row does not see which rows the table holds. -/
theorem frame_store (t : Table) (xs : List α) (n : String) (r : Int) (v : Array Value) :
    (L.store t xs).frame n r v = t.frame n r v := rfl

/-- The records of `xs` with those whose ids are in `pre` changed by `g`. -/
def changed (g : α → α) (xs : List α) (pre : List Int) : List α :=
  xs.map fun y => if L.id y ∈ pre then g y else y

theorem changed_ids {g : α → α} {xs : List α} (hg : ∀ x ∈ xs, L.id (g x) = L.id x)
    (pre : List Int) : (L.changed g xs pre).map L.id = xs.map L.id := by
  unfold changed
  rw [List.map_map]
  refine List.map_congr_left fun x hx => ?_
  simp only [Function.comp]
  split
  · exact hg x hx
  · rfl

/-- A table holding `xs` in increasing order of id, with its row id in its first column and
neither checks nor foreign keys. Every record of the layout fits the table: its first cell is
its id, and it fills every column that may not be null. -/
structure Holds (t : Table) (xs : List α) : Prop where
  rowid : t.rowidColumn = some 0
  checks : t.checks = []
  keys : t.foreignKeys = []
  rows : t.rows = (xs.map L.entry).toArray
  sorted : (xs.map L.id).Pairwise (· < ·)
  first : ∀ x, (L.cells x)[0]?.getD .null = .int (L.id x)
  filled : ∀ x, ∀ c ∈ t.columns.toList.zipIdx,
    (c.1.notNull && (L.cells x)[c.2]?.getD .null == .null) = false

variable {L}

/-- Records of a list in increasing order of id with the same id are the same. -/
theorem eq_of_id {xs : List α} (hs : (xs.map L.id).Pairwise (· < ·)) {x y : α} (hx : x ∈ xs)
    (hy : y ∈ xs) (hid : L.id x = L.id y) : x = y := by
  induction xs with
  | nil => simp at hx
  | cons z zs ih =>
    rw [List.map_cons, List.pairwise_cons] at hs
    have hlt : ∀ w ∈ zs, L.id z < L.id w := fun w hw => hs.1 (L.id w) (List.mem_map_of_mem hw)
    rcases List.mem_cons.mp hx with hxz | hx'
    · rcases List.mem_cons.mp hy with hyz | hy'
      · rw [hxz, hyz]
      · exact absurd (hxz ▸ hid) (Int.ne_of_lt (hlt y hy'))
    · rcases List.mem_cons.mp hy with hyz | hy'
      · exact absurd (hyz ▸ hid.symm) (Int.ne_of_lt (hlt x hx'))
      · exact ih hs.2 hx' hy'

namespace Holds

variable {t : Table} {xs : List α}

theorem rows_toList (h : L.Holds t xs) : t.rows.toList = xs.map L.entry := by
  rw [h.rows, List.toList_toArray]

theorem ordered (h : L.Holds t xs) : Ordered t.rows.toList := by
  rw [h.rows_toList]
  unfold Ordered
  rw [List.pairwise_map]
  exact List.pairwise_map.mp h.sorted

theorem store_self (h : L.Holds t xs) : L.store t xs = t := by
  unfold store
  rw [← h.rows]

/-- The table holds any list of records in increasing order of id. -/
theorem store (h : L.Holds t xs) {ys : List α} (hs : (ys.map L.id).Pairwise (· < ·)) :
    L.Holds (L.store t ys) ys :=
  { h with rows := rfl, sorted := hs }

/-- A stored record is found under its id. -/
theorem row? (h : L.Holds t xs) {x : α} (hx : x ∈ xs) : t.row? (L.id x) = some (L.cells x) := by
  unfold Table.row?
  rw [← Array.find?_toList, h.rows_toList, List.find?_map]
  have : xs.find? ((fun e => e.fst == L.id x) ∘ L.entry) = some x := by
    rw [List.find?_eq_some_iff_append]
    obtain ⟨pre, post, rfl⟩ := List.mem_iff_append.mp hx
    refine ⟨by simp [entry], pre, post, rfl, fun y hy => ?_⟩
    have hne : L.id y ≠ L.id x := by
      intro hid
      have := eq_of_id h.sorted (List.mem_append_left _ hy) hx hid
      subst this
      have hs := h.sorted
      rw [List.map_append, List.pairwise_append] at hs
      exact absurd (hs.2.2 (L.id y) (List.mem_map_of_mem hy) (L.id y) (by simp)) (Int.lt_irrefl _)
    simp [entry, hne]
  rw [this]
  rfl

/-- Writing a stored record back under its id, changed but for its id, replaces it in place. -/
theorem put (h : L.Holds t xs) {x : α} (hx : x ∈ xs) (x' : α) (hid : L.id x' = L.id x) :
    (t.removeRow (L.id x)).putRow (L.id x) (L.cells x') =
      L.store t (xs.map fun y => if L.id y = L.id x then x' else y) := by
  have hmem : L.id x ∈ t.rows.toList.map (·.1) := by
    rw [h.rows_toList, List.map_map]
    exact List.mem_map.mpr ⟨x, hx, rfl⟩
  refine L.eq_store_of_rows rfl ?_
  rw [Table.removeRow_putRow_rows h.ordered hmem, h.rows_toList, List.map_map, List.map_map]
  apply List.map_congr_left
  intro y _
  by_cases hy : L.id y = L.id x
  · simp [entry, hy, hid]
  · simp [entry, hy]

/-- A record under an id past every stored one is appended. -/
theorem append (h : L.Holds t xs) (x : α) (hx : ∀ y ∈ xs, L.id y < L.id x) :
    t.putRow (L.id x) (L.cells x) = L.store t (xs ++ [x]) := by
  refine L.eq_store_of_rows rfl ?_
  rw [Table.putRow_rows_of_lt (by rw [h.rows_toList]; simpa [entry] using hx), h.rows_toList,
    List.map_append]
  rfl

/-- The table without some ids holds the other records. -/
theorem without (h : L.Holds t xs) (ids : List Int) :
    L.Holds (t.without ids) (xs.filter fun x => !ids.contains (L.id x)) where
  rowid := h.rowid
  checks := h.checks
  keys := h.keys
  rows := by
    simp only [Table.without, h.rows, List.filter_toArray, List.filter_map]
    rfl
  sorted := h.sorted.sublist ((List.filter_sublist).map _)
  first := h.first
  filled := h.filled

end Holds

end Layout

/-- The assignments of an update read a table only through its columns. -/
theorem Table.assign_of_columns {t u : Table} (h : u.columns = t.columns) (scope : Scope) :
    ∀ (row : Array Value) (sets : List (String × Expr)), u.assign scope row sets = t.assign scope row sets
  | _, [] => rfl
  | row, (c, e) :: rest => by
    have hi : u.columnIndex? c = t.columnIndex? c := by simp only [Table.columnIndex?, h]
    simp only [Table.assign, hi, h]
    split
    · cases eval scope e with
      | error _ => rfl
      | ok v => exact Table.assign_of_columns h scope _ rest
    · exact Table.assign_of_columns h scope _ rest

namespace Exec

/-- Putting back a quiet database's own table of a name leaves it as it is. -/
theorem Quiet.setTable_self {n : String} {db : Database} {t : Table} (hq : Quiet n db)
    (ht : db.table? n = some t) : db.setTable t = db := by
  have htn := Database.sameName_of_table? ht
  have hmem : t ∈ db.tables := List.mem_of_find?_eq_some ht
  have hkeep : (db.tables.map fun u => if sameName u.name t.name then t else u) = db.tables := by
    conv => rhs; rw [← List.map_id db.tables]
    apply List.map_congr_left
    intro u hu
    by_cases hut : sameName u.name t.name = true
    · simp only [hut, if_true, id]
      exact (hq.alone u hu t hmem (by rw [sameName_congr_right htn] at hut; exact hut) htn).symm
    · simp [hut]
  simp only [Database.setTable, hkeep]

/-- Putting in a table of the quiet name that refers to no other table keeps a database quiet. -/
theorem Quiet.setTable_named {n : String} {db : Database} {u : Table} (hq : Quiet n db)
    (hun : sameName u.name n = true) (hfk : u.foreignKeys = []) : Quiet n (db.setTable u) := by
  -- every table of the name is now `u`
  have named : ∀ v ∈ (db.setTable u).tables, sameName v.name n = true → v = u := by
    intro v hv hvn
    obtain ⟨w, -, rfl⟩ := List.mem_map.mp hv
    by_cases hw : sameName w.name u.name = true
    · simp [hw]
    · simp only [hw, Bool.false_eq_true, if_false] at hvn ⊢
      rw [sameName_congr_right hun] at hw
      exact absurd hvn hw
  exact ⟨hq.triggers, fun v hv hvn => (named v hv hvn) ▸ hfk,
    fun v hv w hw hvn hwn => (named v hv hvn).trans (named w hw hwn).symm⟩

/-- Recording a row id changes only the table of counters. -/
theorem noteRowid_lastRowid {t : Table} {r : Int} {db d : Database}
    (h : (noteRowid t r).run db = .ok ((), d)) : d.lastRowid = db.lastRowid := by
  have key : ∃ d', (noteRowid t r).run db = .ok ((), d') ∧ d'.lastRowid = db.lastRowid := by
    unfold noteRowid
    by_cases ha : t.autoincrement = true
    · simp only [ha, Bool.not_true, Bool.false_eq_true, if_false, StateT.run_bind, StateT.run_get,
        pure_bind]
      repeat' split
      all_goals exact ⟨_, rfl, rfl⟩
    · simp only [ha, Bool.not_false, if_true]
      exact ⟨db, rfl, rfl⟩
  obtain ⟨d', h', hl⟩ := key
  rw [h] at h'
  cases h'
  exact hl

theorem Within.of_run {α : Type} {R : Database → Database → Prop} {x : Exec α} (hw : Within R x)
    {db d : Database} {a : α} (h : x.run db = .ok (a, d)) : R db d := by
  have := hw.always db
  rwa [WithinAt, h] at this

section Update

variable {α : Type} {L : Layout α} {db : Database} {t : Table} {xs : List α} {env : Env}
  {n : String}

/-- One turn of an update's loop over the rows it changes, on the table holding `xs` with the
records of ids in `pre` already changed: the record `x` is changed too, when it clashes with
no other row. -/
theorem run_update_turn (ht : db.table? n = some t) (h : L.Holds t xs) (hq : Quiet n db)
    {g : α → α} (hg : ∀ x ∈ xs, L.id (g x) = L.id x) (sets : List (String × Expr))
    (res : Resolution) (fuel : Nat) (pre : List Int) {x : α} (hx : x ∈ xs)
    (hset : t.assign (env.scope [t.frame t.name (L.id x) (L.cells x)]) (L.cells x) sets =
      .ok (L.cells (g x)))
    (hpre : L.id x ∉ pre)
    (hclash : ∀ ix ∈ db.indexesOf n, ∀ d,
      (conflicts env ((L.store t (L.changed g xs pre)).removeRow (L.id x)) ix (L.id x)
        (L.cells (g x))).run d = .ok ([], d))
    (count : Nat) :
    (do
      let t ← table n
      match t.row? (L.id x) with
      | some old => do
        let row ← forIn sets old fun c acc =>
          match t.columnIndex? c.1 with
          | some i => do
            let v ← lift (eval (env.scope [t.frame t.name (L.id x) old]) c.2)
            pure (ForInStep.yield (acc.set! i (Value.withAffinity t.columns[i]!.affinity v)))
          | _ => pure (ForInStep.yield acc)
        let k ← updateRow (fuel + 2) env res n (L.id x) old row (sets.map (·.1))
        pure (ForInStep.yield (count + k))
      | _ => pure (ForInStep.yield count) : Exec _).run
        (db.setTable (L.store t (L.changed g xs pre))) =
      .ok (.yield (count + 1), db.setTable (L.store t (L.changed g xs (pre ++ [L.id x])))) := by
  -- the table as the turn finds it
  set before := L.changed g xs pre with hbefore
  have hb : L.Holds (L.store t before) before :=
    h.store (by rw [hbefore, Layout.changed_ids L hg]; exact h.sorted)
  have hxb : x ∈ before := List.mem_map.mpr ⟨x, hx, by simp [hpre]⟩
  have hname : sameName (L.store t before).name n = true := by
    rw [Layout.store_name]; exact Database.sameName_of_table? ht
  rw [run_bind_of_ok (run_table (Database.table?_setTable_self ht hname))]
  simp only [hb.row? hxb, Layout.frame_store]
  -- the new values of the row
  have hassign : (L.store t before).assign (env.scope [t.frame t.name (L.id x) (L.cells x)])
      (L.cells x) sets = .ok (L.cells (g x)) := by
    rw [Table.assign_of_columns (Layout.store_columns L t before)]; exact hset
  rw [run_bind_of_ok (run_forIn_assign (L.store t before) _ sets _
    (by funext c acc; cases (L.store t before).columnIndex? c.1 <;> rfl) _ _ hassign)]
  have hgid : L.id (g x) = L.id x := hg x hx
  rw [run_bind_of_ok (run_updateRow (Database.table?_setTable_self ht hname)
    (by simpa using hq.triggers) hb.rowid (by rw [← hgid]; exact h.first (g x))
    (by rw [Layout.store_columns]; exact h.filled (g x)) hb.checks hb.keys
    (fun ix hix => hclash ix (by simpa using hix) _))]
  -- the row written back is the changed record in its place
  have hafter : (before.map fun y => if L.id y = L.id x then g x else y) =
      L.changed g xs (pre ++ [L.id x]) := by
    rw [hbefore, Layout.changed, Layout.changed, List.map_map]
    refine List.map_congr_left fun y hy => ?_
    by_cases hyx : L.id y = L.id x
    · have := Layout.eq_of_id h.sorted hy hx hyx
      subst this
      simp [hpre]
    · have hy' : L.id (if L.id y ∈ pre then g y else y) = L.id y := by
        split
        · exact hg y hy
        · rfl
      simp [hyx, hy']
  rw [hb.put hxb (g x) hgid, Database.setTable_setTable (by simp [sameName_self]),
    Layout.store_store, hafter]
  rfl

/-- An update of a table holding records changes, one after another in the table's order,
every record its condition holds for, and counts them, when each changed record keeps its id
and clashes with no other row on the table as the update finds it. -/
theorem run_update_stored (ht : db.table? n = some t) (h : L.Holds t xs) (hq : Quiet n db)
    {P : α → Bool} {g : α → α} (hg : ∀ x ∈ xs, P x = true → L.id (g x) = L.id x)
    (filter : Option Expr)
    (hp : ∀ x ∈ xs, holds (env.scope [t.frame t.name (L.id x) (L.cells x)]) filter = .ok (P x))
    (sets : List (String × Expr))
    (hset : ∀ x ∈ xs, P x = true →
      t.assign (env.scope [t.frame t.name (L.id x) (L.cells x)]) (L.cells x) sets =
        .ok (L.cells (g x)))
    (hclash : ∀ pre : List Int, ∀ x ∈ xs, P x = true → L.id x ∉ pre → ∀ ix ∈ db.indexesOf n,
      ∀ d, (conflicts env ((L.store t (L.changed (fun y => if P y then g y else y) xs pre)).removeRow
        (L.id x)) ix (L.id x) (L.cells (g x))).run d = .ok ([], d))
    (res : Resolution) (fuel : Nat) :
    (update (fuel + 3) env res n sets filter).run db =
      .ok ((xs.filter P).length, db.setTable (L.store t (xs.map fun x => if P x then g x else x))) := by
  unfold update
  rw [run_bind_of_ok (run_table ht)]
  dsimp only
  -- the rows the condition holds for are those of the records `P` holds for
  let p : Int × Array Value → Bool := fun e =>
    ((holds (env.scope [t.frame t.name e.1 e.2]) filter).toOption).getD false
  have hpx : ∀ x ∈ xs, p (L.entry x) = P x := by
    intro x hx
    simp only [p, Layout.entry, hp x hx]
    rfl
  rw [run_bind_of_ok (run_forIn_filter t.rows (·.1)
    (fun e => lift (holds (env.scope [t.frame t.name e.1 e.2]) filter)) p ?rows)]
  case rows =>
    intro e he
    rw [h.rows, List.mem_toArray, List.mem_map] at he
    obtain ⟨x, hx, rfl⟩ := he
    simp only [Layout.entry] at hpx ⊢
    rw [hp x hx, hpx x hx]
    rfl
  have hmatch : (t.rows.toList.filter p).map (·.1) = (xs.filter P).map L.id := by
    rw [h.rows_toList, List.filter_map, List.map_map]
    congr 1
    exact List.filter_congr fun x hx => by simpa using hpx x hx
  -- the loop over them changes one record a turn
  let g' : α → α := fun x => if P x then g x else x
  have hg' : ∀ x ∈ xs, L.id (g' x) = L.id x := by
    intro x hx
    by_cases hP : P x = true
    · simp only [g', hP, if_true]; exact hg x hx hP
    · simp only [g', hP]; rfl
  have hnd : ((xs.filter P).map L.id).Nodup :=
    (h.sorted.sublist ((List.filter_sublist).map _)).imp fun hlt => Int.ne_of_lt hlt
  have hstart : db = db.setTable (L.store t (L.changed g' xs [])) := by
    simp only [Layout.changed, List.not_mem_nil, if_false, List.map_id', h.store_self,
      hq.setTable_self ht]
  rw [hmatch, ← Array.forIn_toList, List.toList_toArray]
  rw [run_bind_of_ok (run_forIn_list_from _ _ (fun pre => pre.length)
    (fun pre => db.setTable (L.store t (L.changed g' xs pre)))
    (show (0 : Nat) = ([] : List Int).length from rfl) hstart ?turn)]
  case turn =>
    intro pre r rest hsplit
    have hr : r ∈ (xs.filter P).map L.id := by rw [hsplit]; simp
    obtain ⟨x, hxP, rfl⟩ := List.mem_map.mp hr
    obtain ⟨hx, hP⟩ := List.mem_filter.mp hxP
    have hpre : L.id x ∉ pre := by
      rw [hsplit] at hnd
      exact fun hm => (List.nodup_append.mp hnd).2.2 _ hm _ (by simp) rfl
    have hset' : t.assign (env.scope [t.frame t.name (L.id x) (L.cells x)]) (L.cells x) sets =
        .ok (L.cells (g' x)) := by
      simp only [g', hP, if_true]; exact hset x hx hP
    have hclash' := hclash pre x hx hP hpre
    have hgx : g' x = g x := by simp only [g', hP, if_true]
    rw [List.length_append, List.length_singleton]
    exact run_update_turn ht h hq hg' sets res fuel pre hx hset' hpre (hgx ▸ hclash') pre.length
  -- after the last turn every record the condition holds for is changed
  have hall : L.changed g' xs ((xs.filter P).map L.id) = xs.map g' := by
    refine List.map_congr_left fun x hx => ?_
    by_cases hP : P x = true
    · have : L.id x ∈ (xs.filter P).map L.id :=
        List.mem_map.mpr ⟨x, List.mem_filter.mpr ⟨hx, hP⟩, rfl⟩
      simp [this]
    · have : L.id x ∉ (xs.filter P).map L.id := by
        intro hm
        obtain ⟨y, hy, hyx⟩ := List.mem_map.mp hm
        obtain ⟨hys, hyP⟩ := List.mem_filter.mp hy
        rw [Layout.eq_of_id h.sorted hys hx hyx] at hyP
        exact hP hyP
      simp [this, g', hP]
  simp only [hall, List.length_map]
  rfl

end Update

section Insert

variable {α : Type} {L : Layout α} {db : Database} {t : Table} {xs : List α} {env : Env}
  {n : String}

/-- A new record, on a quiet database, into a table holding records: when the values given
leave the id to be chosen and the record made under any id past the stored ones clashes with
no row, it is written under a fresh id past every stored one, appended to the table, and
becomes the last row id; every table of another name than the table and the counters is
spared. -/
theorem run_insertRow_stored (ht : db.table? n = some t) (h : L.Holds t xs) (hq : Quiet n db)
    (hin : env.inTrigger = false) (hseq : sameName "sqlite_sequence" n = false)
    {targets : List Nat} {given vals : List Value}
    (hfill : t.columns.toList.zipIdx.mapM (Table.initial targets given (env.scope [])) = .ok vals)
    (hnull : vals.toArray[0]?.getD .null = .null) (mk : Int → α)
    (hmk : ∀ r, vals.toArray.set! 0 (.int r) = L.cells (mk r)) (hid : ∀ r, L.id (mk r) = r)
    (hclash : ∀ r, (∀ x ∈ xs, L.id x < r) → ∀ ix ∈ db.indexesOf n,
      (conflicts env t ix r (L.cells (mk r))).run db = .ok ([], db))
    (res : Resolution) (fuel : Nat) :
    ∃ r d, (∀ x ∈ xs, L.id x < r) ∧
      (insertRow (fuel + 2) env res n targets given none).run db = .ok (1, d) ∧
      d.table? n = some (L.store t (xs ++ [mk r])) ∧ d.lastRowid = r ∧ Quiet n d ∧
      d.indexes = db.indexes ∧
      ∀ m, sameName n m = false → sameName "sqlite_sequence" m = false → Spares m db d := by
  -- ids past every stored row are past every stored record
  have hpast : ∀ r, (∀ e ∈ t.rows.toList, e.1 < r) → ∀ x ∈ xs, L.id x < r := by
    intro r hr x hx
    exact hr (L.entry x) (by rw [h.rows_toList]; exact List.mem_map_of_mem hx)
  obtain ⟨r, d, hgt, hrun, hnote⟩ := run_insertRow ht hq.triggers h.rowid hfill hnull
    (fun r c hc => by rw [hmk]; exact h.filled (mk r) c hc) h.checks h.keys
    (fun r hr ix hix => by rw [hmk]; exact hclash r (hpast r hr) ix hix)
  refine ⟨r, d, hpast r hgt, hrun, ?_⟩
  have happ : t.putRow r (L.cells (mk r)) = L.store t (xs ++ [mk r]) := by
    have := h.append (mk r) (fun x hx => by rw [hid r]; exact hpast r hgt x hx)
    rwa [hid r] at this
  rw [hmk, hin, happ] at hnote
  simp only [Bool.false_eq_true, if_false] at hnote
  -- the counters are all that recording the id may change
  have hname : sameName (L.store t (xs ++ [mk r])).name n = true := by
    rw [Layout.store_name]; exact Database.sameName_of_table? ht
  have hq1 : Quiet n { db.setTable (L.store t (xs ++ [mk r])) with lastRowid := r } :=
    have hq' := hq.setTable_named hname h.keys
    ⟨hq'.triggers, hq'.leaves, hq'.alone⟩
  obtain ⟨hqd, htd, hid'⟩ := (noteRowid_spares t r hseq).of_run hnote hq1
  refine ⟨?_, noteRowid_lastRowid hnote, hqd, hid', fun m hm hs => ?_⟩
  · rw [htd]; exact Database.table?_setTable_self ht hname
  · have hu : sameName (L.store t (xs ++ [mk r])).name m = false := by
      rw [Layout.store_name, sameName_congr_left (Database.sameName_of_table? ht)]; exact hm
    exact trans_of (Spares m) (spares_setTable_with hu r) ((noteRowid_spares t r hs).of_run hnote)

end Insert

end Exec

end SubtitleQueue.Sql
