import SubtitleQueue.Store.Request
import SubtitleQueue.Proofs.Sql.Values
import SubtitleQueue.Proofs.Sql.Tables

/-!
Requests as rows of the request table: the cells a request is stored as, the columns they sit
in, and how a condition of a statement reads a stored request. A stored request reads back as
itself.
-/

namespace SubtitleQueue.Store

open Sql

/-- The columns of the request table, as the queue's schema declares them. -/
def requestColumnDefs : Array Column := #[
  { name := "id", type := "INTEGER", affinity := .integer },
  { name := "media_id", type := "INTEGER", affinity := .integer },
  { name := "media_type", type := "TEXT", affinity := .text },
  { name := "title", type := "TEXT", affinity := .text, notNull := true },
  { name := "source_language", type := "TEXT", affinity := .text, notNull := true },
  { name := "target_language", type := "TEXT", affinity := .text, notNull := true },
  { name := "subtitle_path", type := "TEXT", affinity := .text },
  { name := "status", type := "TEXT", affinity := .text, notNull := true,
    initial := some (.lit (.text "pending")) },
  { name := "is_priority", type := "INTEGER", affinity := .integer, notNull := true,
    initial := some (.lit (.int 0)) },
  { name := "is_active", type := "INTEGER", affinity := .integer },
  { name := "created_at", type := "TEXT", affinity := .text, notNull := true },
  { name := "completed_at", type := "TEXT", affinity := .text },
  { name := "progress", type := "INTEGER", affinity := .integer, notNull := true,
    initial := some (.lit (.int 0)) },
  { name := "job_id", type := "TEXT", affinity := .text }]

/-- The names of the request table's columns. -/
def requestColumnNames : Array String := requestColumnDefs.map (·.name)

/-- The cells of a request as the request table holds them, in column order. -/
def Request.cells (r : Request) : Array Value :=
  #[.int r.id, (r.mediaId.map .int).getD .null, textOrNull (r.mediaKind.map MediaKind.name),
    .text r.title, .text r.source, .text r.target, textOrNull r.subtitle, .text r.status.name,
    flag r.priority, (r.active.map flag).getD .null, .text r.createdAt, textOrNull r.completedAt,
    .int r.progress, textOrNull r.job]

/-- A request as a row of the table: its id and its cells. -/
def Request.entry (r : Request) : Int × Array Value := (r.id, r.cells)

/-- The row a condition reads when it is evaluated against a stored request. -/
def Request.frame (r : Request) : Frame :=
  { name := "translation_requests", columns := requestColumnNames,
    affinities := requestColumnDefs.map (·.affinity), values := r.cells, rowid := some r.id }

/-- The request table holding exactly `rs`, in increasing order of id. -/
structure RequestTable (t : Table) (rs : List Request) : Prop where
  name : t.name = "translation_requests"
  columns : t.columns = requestColumnDefs
  rowid : t.rowidColumn = some 0
  counted : t.autoincrement = true
  checks : t.checks = []
  keys : t.foreignKeys = []
  rows : t.rows = (rs.map Request.entry).toArray
  sorted : (rs.map (·.id)).Pairwise (· < ·)

theorem RequestTable.frame {t : Table} {rs : List Request} (h : RequestTable t rs) (r : Request) :
    t.frame t.name r.id r.cells = r.frame := by
  simp [Table.frame, Request.frame, Table.columnNames, requestColumnNames, h.name, h.columns]

theorem RequestTable.columnIndex {t : Table} {rs : List Request} (h : RequestTable t rs)
    (c : String) : t.columnIndex? c = requestColumnDefs.findIdx? (fun d => sameName d.name c) := by
  simp [Table.columnIndex?, h.columns]

/-- Every column of the request table is found by its name at its own position. -/
theorem requestColumnNames_findIdx? :
    ∀ p ∈ requestColumnNames.toList.zipIdx, requestColumnNames.findIdx? (sameName · p.1) = some p.2 := by
  decide +kernel

theorem Request.lookup_of_index {r : Request} (n : String) (i : Nat)
    (h : (n, i) ∈ requestColumnNames.toList.zipIdx) :
    r.frame.lookup? n = some (r.cells[i]?.getD .null, (requestColumnDefs.map (·.affinity))[i]?) := by
  simp only [Frame.lookup?, Request.frame, requestColumnNames_findIdx? (n, i) h]

section Lookup

variable (r : Request)

@[simp] theorem Request.lookup_id :
    r.frame.lookup? "id" = some (.int r.id, some .integer) := by
  rw [Request.lookup_of_index "id" 0 (by simp [requestColumnNames, requestColumnDefs])]
  simp [Request.cells, requestColumnDefs]

@[simp] theorem Request.lookup_mediaId :
    r.frame.lookup? "media_id" = some ((r.mediaId.map .int).getD .null, some .integer) := by
  rw [Request.lookup_of_index "media_id" 1 (by simp [requestColumnNames, requestColumnDefs])]
  simp [Request.cells, requestColumnDefs]

@[simp] theorem Request.lookup_mediaType :
    r.frame.lookup? "media_type" = some (textOrNull (r.mediaKind.map MediaKind.name), some .text) := by
  rw [Request.lookup_of_index "media_type" 2 (by simp [requestColumnNames, requestColumnDefs])]
  simp [Request.cells, requestColumnDefs]

@[simp] theorem Request.lookup_title :
    r.frame.lookup? "title" = some (.text r.title, some .text) := by
  rw [Request.lookup_of_index "title" 3 (by simp [requestColumnNames, requestColumnDefs])]
  simp [Request.cells, requestColumnDefs]

@[simp] theorem Request.lookup_sourceLanguage :
    r.frame.lookup? "source_language" = some (.text r.source, some .text) := by
  rw [Request.lookup_of_index "source_language" 4 (by simp [requestColumnNames, requestColumnDefs])]
  simp [Request.cells, requestColumnDefs]

@[simp] theorem Request.lookup_targetLanguage :
    r.frame.lookup? "target_language" = some (.text r.target, some .text) := by
  rw [Request.lookup_of_index "target_language" 5 (by simp [requestColumnNames, requestColumnDefs])]
  simp [Request.cells, requestColumnDefs]

@[simp] theorem Request.lookup_subtitlePath :
    r.frame.lookup? "subtitle_path" = some (textOrNull r.subtitle, some .text) := by
  rw [Request.lookup_of_index "subtitle_path" 6 (by simp [requestColumnNames, requestColumnDefs])]
  simp [Request.cells, requestColumnDefs]

@[simp] theorem Request.lookup_status :
    r.frame.lookup? "status" = some (.text r.status.name, some .text) := by
  rw [Request.lookup_of_index "status" 7 (by simp [requestColumnNames, requestColumnDefs])]
  simp [Request.cells, requestColumnDefs]

@[simp] theorem Request.lookup_isPriority :
    r.frame.lookup? "is_priority" = some (flag r.priority, some .integer) := by
  rw [Request.lookup_of_index "is_priority" 8 (by simp [requestColumnNames, requestColumnDefs])]
  simp [Request.cells, requestColumnDefs]

@[simp] theorem Request.lookup_isActive :
    r.frame.lookup? "is_active" = some ((r.active.map flag).getD .null, some .integer) := by
  rw [Request.lookup_of_index "is_active" 9 (by simp [requestColumnNames, requestColumnDefs])]
  simp [Request.cells, requestColumnDefs]

@[simp] theorem Request.lookup_createdAt :
    r.frame.lookup? "created_at" = some (.text r.createdAt, some .text) := by
  rw [Request.lookup_of_index "created_at" 10 (by simp [requestColumnNames, requestColumnDefs])]
  simp [Request.cells, requestColumnDefs]

@[simp] theorem Request.lookup_completedAt :
    r.frame.lookup? "completed_at" = some (textOrNull r.completedAt, some .text) := by
  rw [Request.lookup_of_index "completed_at" 11 (by simp [requestColumnNames, requestColumnDefs])]
  simp [Request.cells, requestColumnDefs]

@[simp] theorem Request.lookup_progress :
    r.frame.lookup? "progress" = some (.int r.progress, some .integer) := by
  rw [Request.lookup_of_index "progress" 12 (by simp [requestColumnNames, requestColumnDefs])]
  simp [Request.cells, requestColumnDefs]

@[simp] theorem Request.lookup_jobId :
    r.frame.lookup? "job_id" = some (textOrNull r.job, some .text) := by
  rw [Request.lookup_of_index "job_id" 13 (by simp [requestColumnNames, requestColumnDefs])]
  simp [Request.cells, requestColumnDefs]

end Lookup

/-- A live request: queued or running, stored with `is_active = 1`. -/
def Request.live (q : Request) : Bool := q.active == some true

/-- The key of the unique index over live requests: a request's media item and its languages,
for a request with both parts of a media item. -/
def Request.tuple? (q : Request) : Option (Int × MediaKind × String × String) :=
  q.media?.map fun m => (m.1, m.2, q.source, q.target)

/-- Two requests that the unique index refuses to hold together. -/
def Request.clashes (q q' : Request) : Bool :=
  q.live && q'.live && q.tuple?.isSome && q.tuple? == q'.tuple?

theorem Request.clashes_comm (q q' : Request) : q.clashes q' = q'.clashes q := by
  unfold Request.clashes
  cases h : q.tuple? == q'.tuple?
  · have : (q'.tuple? == q.tuple?) = false := by
      rw [beq_eq_false_iff_ne] at h ⊢; exact fun e => h e.symm
    simp [this]
  · have he : q.tuple? = q'.tuple? := by simpa using h
    simp [he, Bool.and_comm]

@[simp] theorem Request.cells_id (q : Request) : q.cells[0]?.getD .null = .int q.id := rfl

/-- A stored request fills every column that may not be null. -/
theorem Request.cells_notNull (q : Request) :
    ∀ x ∈ requestColumnDefs.toList.zipIdx, (x.1.notNull && q.cells[x.2]?.getD .null == .null) = false := by
  intro x hx
  simp only [requestColumnDefs, List.zipIdx] at hx
  simp only [List.mem_cons, List.not_mem_nil, or_false] at hx
  rcases hx with rfl | rfl | rfl | rfl | rfl | rfl | rfl | rfl | rfl | rfl | rfl | rfl | rfl | rfl <;>
    simp [Request.cells, flag]

/-- The requests of a list have distinct ids. -/
theorem Request.eq_of_id {rs : List Request} (hs : (rs.map (·.id)).Pairwise (· < ·))
    {x y : Request} (hx : x ∈ rs) (hy : y ∈ rs) (hid : x.id = y.id) : x = y := by
  induction rs with
  | nil => simp at hx
  | cons z zs ih =>
    rw [List.map_cons, List.pairwise_cons] at hs
    have hlt : ∀ w ∈ zs, z.id < w.id := fun w hw => hs.1 w.id (List.mem_map_of_mem hw)
    rcases List.mem_cons.mp hx with hxz | hx'
    · rcases List.mem_cons.mp hy with hyz | hy'
      · rw [hxz, hyz]
      · exact absurd (hxz ▸ hid) (Int.ne_of_lt (hlt y hy'))
    · rcases List.mem_cons.mp hy with hyz | hy'
      · exact absurd (hyz ▸ hid.symm) (Int.ne_of_lt (hlt x hx'))
      · exact ih hs.2 hx' hy'

end SubtitleQueue.Store

namespace SubtitleQueue.Sql.Table

open Store

/-- The table `t` holding the requests `rs`. -/
def holding (t : Table) (rs : List Request) : Table := { t with rows := (rs.map Request.entry).toArray }

@[simp] theorem holding_name (t : Table) (rs : List Request) : (t.holding rs).name = t.name := rfl

@[simp] theorem holding_columns (t : Table) (rs : List Request) :
    (t.holding rs).columns = t.columns := rfl

/-- A table made from `t` by changing its rows holds the requests its rows are. -/
theorem holding_of_rows {t u : Table} {rs : List Request} (hu : u = { t with rows := u.rows })
    (h : u.rows.toList = rs.map Request.entry) : u = t.holding rs := by
  rw [hu]
  unfold holding
  congr 1
  exact Array.toList_inj.mp (by simpa using h)

end SubtitleQueue.Sql.Table

namespace SubtitleQueue.Store

open Sql

namespace RequestTable

variable {t : Table} {rs : List Request}

theorem rows_toList (h : RequestTable t rs) : t.rows.toList = rs.map Request.entry := by
  rw [h.rows, List.toList_toArray]

theorem ordered (h : RequestTable t rs) : Ordered t.rows.toList := by
  rw [h.rows_toList]
  unfold Ordered
  rw [List.pairwise_map]
  exact List.pairwise_map.mp h.sorted

theorem holding_self (h : RequestTable t rs) : t.holding rs = t := by
  unfold Table.holding
  rw [← h.rows]

/-- The table holds any list of requests in increasing order of id. -/
theorem holding (h : RequestTable t rs) {rs' : List Request}
    (hs : (rs'.map (·.id)).Pairwise (· < ·)) : RequestTable (t.holding rs') rs' :=
  { name := h.name, columns := h.columns, rowid := h.rowid, counted := h.counted,
    checks := h.checks, keys := h.keys, rows := rfl, sorted := hs }

/-- A stored request is found under its id. -/
theorem row? (h : RequestTable t rs) {q : Request} (hq : q ∈ rs) : t.row? q.id = some q.cells := by
  unfold Table.row?
  rw [← Array.find?_toList, h.rows_toList, List.find?_map]
  have : rs.find? ((fun x => x.fst == q.id) ∘ Request.entry) = some q := by
    rw [List.find?_eq_some_iff_append]
    obtain ⟨pre, post, rfl⟩ := List.mem_iff_append.mp hq
    refine ⟨by simp [Request.entry], pre, post, rfl, fun x hx => ?_⟩
    have hne : x.id ≠ q.id := by
      intro hid
      have hx' : x ∈ pre ++ q :: post := List.mem_append_left _ hx
      have := Request.eq_of_id h.sorted hx' hq hid
      subst this
      have hs := h.sorted
      rw [List.map_append, List.pairwise_append] at hs
      exact absurd (hs.2.2 x.id (List.mem_map_of_mem hx) x.id (by simp)) (Int.lt_irrefl _)
    simp [Request.entry, hne]
  rw [this]
  rfl

/-- Writing a stored request back under its id, changed but for its id, replaces it in place. -/
theorem put (h : RequestTable t rs) {q : Request} (hq : q ∈ rs) (q' : Request) (hid : q'.id = q.id) :
    (t.removeRow q.id).putRow q.id q'.cells = t.holding (rs.map fun x => if x.id = q.id then q' else x) := by
  have hmem : q.id ∈ t.rows.toList.map (·.1) := by
    rw [h.rows_toList, List.map_map]
    exact List.mem_map.mpr ⟨q, hq, rfl⟩
  refine Table.holding_of_rows rfl ?_
  rw [Table.removeRow_putRow_rows h.ordered hmem, h.rows_toList, List.map_map, List.map_map]
  apply List.map_congr_left
  intro x _
  by_cases hx : x.id = q.id
  · simp [Request.entry, hx, hid]
  · simp [Request.entry, hx]

/-- A request under an id past every stored one is appended. -/
theorem append (h : RequestTable t rs) (q : Request) (hq : ∀ x ∈ rs, x.id < q.id) :
    t.putRow q.id q.cells = t.holding (rs ++ [q]) := by
  refine Table.holding_of_rows rfl ?_
  rw [Table.putRow_rows_of_lt (by rw [h.rows_toList]; simpa [Request.entry] using hq),
    h.rows_toList, List.map_append]
  rfl

/-- Removing a row keeps the other requests. -/
theorem removeRow (h : RequestTable t rs) (r : Int) :
    t.removeRow r = t.holding (rs.filter (·.id != r)) := by
  refine Table.holding_of_rows rfl ?_
  rw [Table.removeRow_rows, h.rows_toList, List.filter_map]
  rfl

end RequestTable

end SubtitleQueue.Store
