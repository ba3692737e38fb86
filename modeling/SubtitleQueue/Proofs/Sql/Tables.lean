import SubtitleQueue.Sql.Database

/-!
Tables and databases under their changes. Names match without regard to case, so replacing a
table touches exactly the tables its name matches. A table keeps its rows in order of their
row ids: a row put under an id past every other is appended, and a row put back under the id
it had takes its old place.
-/

namespace SubtitleQueue.Sql

theorem sameName_self (a : String) : sameName a a = true := by simp [sameName]

theorem sameName_comm (a b : String) : sameName a b = sameName b a := by
  simp only [sameName]
  rw [Bool.eq_iff_iff, beq_iff_eq, beq_iff_eq, eq_comm]

/-- Names that match may stand for each other on either side of a match. -/
theorem sameName_congr_right {a b c : String} (h : sameName b c = true) :
    sameName a b = sameName a c := by
  simp only [sameName, beq_iff_eq] at *
  rw [h]

theorem sameName_congr_left {a b c : String} (h : sameName a b = true) :
    sameName a c = sameName b c := by
  rw [sameName_comm a c, sameName_comm b c]
  exact sameName_congr_right h

namespace Database

variable {db : Database} {t t' u : Table} {n : String}

/-- A table found by name has a name that matches. -/
theorem sameName_of_table? (h : db.table? n = some t) : sameName t.name n = true := by
  have := List.find?_some (show db.tables.find? (sameName ·.name n) = some t from h)
  exact this

@[simp] theorem triggers_setTable : (db.setTable t).triggers = db.triggers := rfl

@[simp] theorem indexes_setTable : (db.setTable t).indexes = db.indexes := rfl

@[simp] theorem foreignKeys_setTable : (db.setTable t).foreignKeys = db.foreignKeys := rfl

@[simp] theorem indexesOf_setTable : (db.setTable t).indexesOf n = db.indexesOf n := rfl

theorem find?_replace_self {ts : List Table} (hu : ts.find? (sameName ·.name n) = some u)
    (ht : sameName t.name n = true) :
    (ts.map fun v => if sameName v.name t.name then t else v).find? (sameName ·.name n) =
      some t := by
  induction ts with
  | nil => simp at hu
  | cons v vs ih =>
    by_cases hv : sameName v.name n = true
    · have hvt : sameName v.name t.name = true := by rw [sameName_congr_right ht]; exact hv
      simp [hvt, ht]
    · have hv' : sameName v.name n = false := by simpa using hv
      have hvt : sameName v.name t.name = false := by rw [sameName_congr_right ht]; exact hv'
      simp only [List.find?_cons, hv', List.map_cons, hvt, Bool.false_eq_true, ↓reduceIte] at hu ⊢
      exact ih hu

theorem find?_replace_other {ts : List Table} (ht : sameName t.name n = false) :
    (ts.map fun v => if sameName v.name t.name then t else v).find? (sameName ·.name n) =
      ts.find? (sameName ·.name n) := by
  induction ts with
  | nil => rfl
  | cons v vs ih =>
    by_cases hvt : sameName v.name t.name = true
    · have hv : sameName v.name n = false := by rw [sameName_congr_left hvt]; exact ht
      simp [hvt, hv, ht, ih]
    · by_cases hv : sameName v.name n = true
      · simp [hvt, hv]
      · simp [hvt, hv, ih]

/-- Replacing a table is found under every name that matches it. -/
theorem table?_setTable_self (hu : db.table? n = some u) (ht : sameName t.name n = true) :
    (db.setTable t).table? n = some t :=
  find?_replace_self hu ht

/-- Replacing a table leaves the tables of other names as they were. -/
theorem table?_setTable_other (ht : sameName t.name n = false) :
    (db.setTable t).table? n = db.table? n :=
  find?_replace_other ht

/-- Replacing a table twice under matching names is replacing it once, with the last. -/
theorem setTable_setTable (h : sameName t.name t'.name = true) :
    (db.setTable t).setTable t' = db.setTable t' := by
  simp only [setTable, Database.mk.injEq, List.map_map, and_true]
  apply List.map_congr_left
  intro v _
  by_cases hvt : sameName v.name t.name = true
  · have hv : sameName v.name t'.name = true := by rw [← sameName_congr_right h]; exact hvt
    simp [hvt, hv, h]
  · have hv : sameName v.name t'.name = false := by
      rw [← sameName_congr_right h]; simpa using hvt
    simp [hvt, hv]

end Database

/-- Rows in strictly increasing order of their ids. -/
def Ordered {α : Type} (rows : List (Int × α)) : Prop := rows.Pairwise (·.1 < ·.1)

/-- A row put back under an id that an ordered list holds takes the old row's place. -/
theorem Ordered.split_eq_map {α : Type} {rows : List (Int × α)} {r : Int} (v : α)
    (h : Ordered rows) (hr : r ∈ rows.map (·.1)) :
    rows.filter (·.1 < r) ++ (r, v) :: rows.filter (r < ·.1) =
      rows.map fun e => if e.1 = r then (r, v) else e := by
  induction rows with
  | nil => simp at hr
  | cons e rows ih =>
    have hs : ∀ f ∈ rows, e.1 < f.1 := (List.pairwise_cons.mp h).1
    rcases Int.lt_trichotomy e.1 r with hlt | heq | hgt
    · have hr' : r ∈ rows.map (·.1) := by
        simp only [List.map_cons, List.mem_cons] at hr
        exact hr.resolve_left (by omega)
      have hne : e.1 ≠ r := by omega
      simp [hlt, hne, Int.not_lt.mpr (Int.le_of_lt hlt),
        ih (List.pairwise_cons.mp h).2 hr']
    · have hbefore : rows.filter (·.1 < r) = [] :=
        List.filter_eq_nil_iff.mpr fun f hf => by have := hs f hf; simp; omega
      have hafter : rows.filter (r < ·.1) = rows :=
        List.filter_eq_self.mpr fun f hf => by have := hs f hf; simp; omega
      have hkeep : (rows.map fun f => if f.1 = r then (r, v) else f) = rows := by
        have hid : (rows.map fun f => if f.1 = r then (r, v) else f) = rows.map id :=
          List.map_congr_left fun f hf => by
            have : f.1 ≠ r := by have := hs f hf; omega
            simp [this]
        rw [hid, List.map_id]
      simp [heq, hbefore, hafter, hkeep]
    · exfalso
      simp only [List.map_cons, List.mem_cons, List.mem_map] at hr
      rcases hr with hr | ⟨f, hf, rfl⟩
      · omega
      · have := hs f hf; omega

namespace Table

@[simp] theorem removeRow_name (t : Table) (r : Int) : (t.removeRow r).name = t.name := rfl

@[simp] theorem putRow_name (t : Table) (r : Int) (v : Array Value) : (t.putRow r v).name = t.name :=
  rfl

theorem removeRow_rows (t : Table) (r : Int) :
    (t.removeRow r).rows.toList = t.rows.toList.filter (·.1 != r) := by
  simp [removeRow]

/-- Putting a row: the rows before its id, the row, the rows after it. -/
theorem putRow_rows (t : Table) (r : Int) (v : Array Value) :
    (t.putRow r v).rows.toList =
      t.rows.toList.filter (·.1 < r) ++ (r, v) :: t.rows.toList.filter (r < ·.1) := by
  simp only [putRow, List.partition_eq_filter_filter, Array.toList_filter, List.filter_filter,
    List.toList_toArray, List.append_assoc, List.singleton_append]
  congr 1
  · apply List.filter_congr
    intro e _
    by_cases he : e.1 < r
    · simp [he, Int.ne_of_lt he]
    · simp [he]
  · congr 1
    apply List.filter_congr
    intro e _
    by_cases he : r < e.1
    · simp [he, Int.ne_of_gt he, Int.not_lt.mpr (Int.le_of_lt he)]
    · have : e.1 < r ∨ e.1 = r := by omega
      rcases this with h | h
      · simp [h, Int.le_of_lt h]
      · simp [h]

/-- A row under an id past every other is appended. -/
theorem putRow_rows_of_lt {t : Table} {r : Int} (h : ∀ e ∈ t.rows.toList, e.1 < r)
    (v : Array Value) : (t.putRow r v).rows.toList = t.rows.toList ++ [(r, v)] := by
  rw [putRow_rows]
  have hbefore : t.rows.toList.filter (·.1 < r) = t.rows.toList :=
    List.filter_eq_self.mpr fun e he => by simpa using h e he
  have hafter : t.rows.toList.filter (r < ·.1) = [] :=
    List.filter_eq_nil_iff.mpr fun e he => by have := h e he; simp; omega
  rw [hbefore, hafter]

/-- A row written back under its own id takes its old place. -/
theorem removeRow_putRow_rows {t : Table} {r : Int} (h : Ordered t.rows.toList)
    (hr : r ∈ t.rows.toList.map (·.1)) (v : Array Value) :
    ((t.removeRow r).putRow r v).rows.toList =
      t.rows.toList.map fun e => if e.1 = r then (r, v) else e := by
  have hlt : ((t.removeRow r).rows.toList.filter (·.1 < r)) = t.rows.toList.filter (·.1 < r) := by
    rw [removeRow_rows, List.filter_filter]
    apply List.filter_congr
    intro e _
    by_cases he : e.1 < r
    · simp [he, Int.ne_of_lt he]
    · simp [he]
  have hgt : ((t.removeRow r).rows.toList.filter (r < ·.1)) = t.rows.toList.filter (r < ·.1) := by
    rw [removeRow_rows, List.filter_filter]
    apply List.filter_congr
    intro e _
    by_cases he : r < e.1
    · simp [he, Int.ne_of_gt he]
    · simp [he]
  rw [putRow_rows, hlt, hgt, h.split_eq_map v hr]

/-- No row is found under an id past every row id. -/
theorem row?_eq_none_of_lt {t : Table} {r : Int} (h : ∀ e ∈ t.rows.toList, e.1 < r) :
    t.row? r = none := by
  unfold row?
  rw [Option.map_eq_none_iff, Array.find?_eq_none]
  intro e he
  have := h e (by simpa using he)
  simp only [beq_iff_eq]
  omega

theorem maxRowid_fold {α : Type} (rows : List (Int × α)) (init : Int) :
    init ≤ rows.foldl (fun m (r, _) => max m r) init ∧
      ∀ e ∈ rows, e.1 ≤ rows.foldl (fun m (r, _) => max m r) init := by
  induction rows generalizing init with
  | nil => simp
  | cons e rows ih =>
    obtain ⟨r, v⟩ := e
    obtain ⟨h₀, h₁⟩ := ih (max init r)
    refine ⟨Int.le_trans (Int.le_max_left _ _) h₀, ?_⟩
    intro f hf
    rcases List.mem_cons.mp hf with rfl | hf
    · exact Int.le_trans (Int.le_max_right _ _) h₀
    · exact h₁ f hf

theorem le_maxRowid {t : Table} {e : Int × Array Value} (he : e ∈ t.rows.toList) :
    e.1 ≤ t.maxRowid := by
  unfold maxRowid
  rw [← Array.foldl_toList]
  exact (maxRowid_fold t.rows.toList 0).2 e he

end Table

end SubtitleQueue.Sql
